import ArqBenchmark.SystemSteps
import ArqBenchmark.Traces

namespace ArqBenchmark.System

section Taken

variable {B R : Type}

def takes (s : System B R) : Action → Option DataPacket
  | .tryGetPacket => s.receiver.tryGetPacket.1.map (·.packet)
  | _ => none

/-- What the output buffer has accepted has been taken by the application or is in the buffer. -/
def Keeps (taken : List DataPacket) (s : System B R) : Prop :=
  s.history.obAccepted = taken ++ s.receiver.outputBuffer.outputPackets.map (·.packet)

variable {s : System B R} {got : List DataPacket}

theorem Keeps.tryGetPacket (h : s.Keeps got) :
    Keeps (got ++ (s.takes .tryGetPacket).toList) { s with receiver := s.receiver.tryGetPacket.2 } := by
  rw [Keeps] at h
  rw [Keeps, takes]
  cases houtput : s.receiver.outputBuffer.outputPackets with
  | nil => simpa [Receiver.tryGetPacket, OutputBuffer.tryGetPacket, SafeQueue.tryPop, houtput] using h
  | cons o rest => simpa [Receiver.tryGetPacket, OutputBuffer.tryGetPacket, SafeQueue.tryPop, houtput] using h

end Taken

section Steps

variable {B R : Type} [ResequencingBuffer R] {s s' : System B R} {got : List DataPacket} {act : Action}

theorem Keeps.resequences (h : s.Keeps got) {now : Clock} {r : Receiver R} {accepted delivered : Option DataPacket}
    (hr : s.receiver.Resequences now r accepted delivered) : Keeps got { s with
      receiver := r
      history.rsAccepted := s.history.rsAccepted ++ accepted.toList
      history.obAccepted := s.history.obAccepted ++ delivered.toList } := by
  rw [Keeps] at h
  cases hr with
  | @delivered p b hpoint hnext =>
    by_cases hnumber : p.header.sequenceNumber = s.receiver.outputBuffer.nextSequenceNumber
    · rw [OutputBuffer.addPacket_expected now hnumber]
      simp [Keeps, h]
    · rw [OutputBuffer.addPacket_unexpected now hnumber]
      simpa [Keeps] using h
  | _ => simpa [Keeps] using h

variable [RetransmissionBuffer B]

theorem Keeps.step (h : s.Keeps got) (hs : s.step act = some s') : s'.Keeps (got ++ (s.takes act).toList) := by
  have hnone : s.Keeps (got ++ []) := by rwa [List.append_nil]
  cases step_steps hs with
  | resequences hr => exact hnone.resequences hr
  | rxReceives _ hr =>
    obtain ⟨-, point, rfl, -⟩ := Receiver.receivePacket_point hr
    exact hnone
  | rxTimesOut hr =>
    obtain ⟨-, point, rfl, -⟩ := Receiver.receivePacket_point hr
    exact hnone
  | sendsAcks hr => cases hr <;> exact hnone
  | tryGetPacket => exact h.tryGetPacket
  | _ => exact hnone

def taken (s : System B R) (acts : List Action) : List DataPacket :=
  Runs.seen System.step takes s acts

theorem keeps_taken {packets : List DataPacket} {rtBuffer : B} {rsBuffer : R} {acts : List Action}
    (hs : Runs.replay System.step (new packets rtBuffer rsBuffer) acts = some s) :
    s.Keeps ((new packets rtBuffer rsBuffer).taken acts) := by
  have hnew : Keeps [] (new packets rtBuffer rsBuffer) := rfl
  exact Runs.seen_extends (P := fun _ => True) (fun _ _ _ _ h _ hs => h.step hs) (fun _ _ => trivial) hnew hs

end Steps

end ArqBenchmark.System
