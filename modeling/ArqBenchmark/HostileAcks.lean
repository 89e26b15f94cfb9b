import ArqBenchmark.RetransmissionLaws
import ArqBenchmark.Transmitter

namespace ArqBenchmark

open Rt.OverCircularBuffer

namespace Rt.CircularBuffer

variable {b b' : CircularBuffer}

def SameSize (b b' : CircularBuffer) : Prop :=
  b'.windowSize = b.windowSize ∧ b'.buffer.length = b.buffer.length

theorem length_of_writeAt {α : Type} {buffer buffer' : List α} {i : ℕ} {a : α}
    (h : writeAt buffer i a = .ok buffer') : buffer'.length = buffer.length := by
  obtain ⟨-, rfl⟩ := writeAt_eq_ok.mp h
  exact List.length_set

theorem addPacket_sameSize {full : String} {o : TransmitBufferObject} (h : b.addPacket full o = .ok b') :
    SameSize b b' := by
  obtain ⟨r, hwalk, hr⟩ := Loops.bind_eq_ok.mp h
  -- Only the body's result matters: the loop leaves the buffer alone until a slot is free.
  have hkeeps := Loops.doWhile_keeps (K := fun _ => True) (L := SameSize b) (fun _ _ _ _ _ => trivial)
    (fun idx s w _ hslot => ?_) hwalk trivial
  · cases r with
    | inl u => cases hr
    | inr w =>
      cases hr
      exact hkeeps
  · obtain ⟨slot, -, hslot⟩ := Loops.bind_eq_ok.mp hslot
    cases slot with
    | some x => cases hslot
    | none =>
      obtain ⟨buffer, hwrite, hw⟩ := Loops.bind_eq_ok.mp hslot
      cases hw
      exact ⟨rfl, length_of_writeAt hwrite⟩

theorem tryGetPacketSpan_sameSize {now : Clock} {span : Option (List Byte)}
    (h : b.tryGetPacketSpan now = .ok (span, b')) : SameSize b b' := by
  unfold tryGetPacketSpan at h
  split at h
  · obtain ⟨r, hwalk, hr⟩ := Loops.bind_eq_ok.mp h
    have hkeeps := Loops.doWhile_keeps (K := fun _ => True)
      (L := fun r : Option (List Byte) × CircularBuffer => SameSize b r.2) (fun _ _ _ _ _ => trivial)
      (fun idx reads r _ hslot => ?_) hwalk trivial
    · cases r with
      | inl u =>
        cases hr
        exact ⟨rfl, rfl⟩
      | inr r =>
        cases hr
        exact hkeeps
    · obtain ⟨slot, -, hslot⟩ := Loops.bind_eq_ok.mp hslot
      cases slot with
      | none => cases hslot
      | some o =>
        simp only at hslot
        split at hslot
        · obtain ⟨buffer, hwrite, hw⟩ := Loops.bind_eq_ok.mp hslot
          cases hw
          exact ⟨rfl, length_of_writeAt hwrite⟩
        · cases hslot
  · cases h
    exact ⟨rfl, rfl⟩

theorem clearSlot_sameSize {a : SequenceNumber} {i : ℕ} {s s' : CircularBuffer} (h : clearSlot a i s = .ok s') :
    SameSize s s' := by
  obtain ⟨idx, -, hs⟩ := Loops.bind_eq_ok.mp h
  split at hs
  · obtain ⟨buffer, hwrite, hw⟩ := Loops.bind_eq_ok.mp hs
    cases hw
    exact ⟨rfl, length_of_writeAt hwrite⟩
  · cases hs
    exact ⟨rfl, rfl⟩

theorem advance_sameSize {a : SequenceNumber} {s s' : CircularBuffer}
    (h : advance a s = .ok s') : SameSize s s' := by
  unfold advance at h
  split at h
  · obtain ⟨idx, -, hs⟩ := Loops.bind_eq_ok.mp h
    cases hs
    exact ⟨rfl, rfl⟩
  · cases h
    exact ⟨rfl, rfl⟩

theorem acknowledgePacket_sameSize {a : SequenceNumber}
    (h : b.acknowledgePacket a = .ok b') : SameSize b b' := by
  unfold acknowledgePacket at h
  split at h
  · cases h
    exact ⟨rfl, rfl⟩
  · split at h
    · cases h
      exact ⟨rfl, rfl⟩
    · obtain ⟨s, hloop, hs⟩ := Loops.bind_eq_ok.mp h
      have hclear := Loops.forRange_keeps (K := SameSize b)
        (fun i s s' hk hslot =>
          ⟨(clearSlot_sameSize hslot).1.trans hk.1, (clearSlot_sameSize hslot).2.trans hk.2⟩)
        hloop ⟨rfl, rfl⟩
      have hadvance := advance_sameSize hs
      exact ⟨hadvance.1.trans hclear.1, hadvance.2.trans hclear.2⟩

end Rt.CircularBuffer

/-- What the application, the threads and the network do to a transmitter. The receive function may return
any bytes. -/
inductive TransmitterEvent
  | sendPacket (now : Clock) (packet : DataPacket)
  | transmitThread (now : Clock)
  | ackThread
  | receiveAck (received : Option (ℕ × ReceiveBuffer))

namespace Transmitter

variable {B : Type} [RetransmissionBuffer B]

def next (t : Transmitter B) : TransmitterEvent → Option (Transmitter B)
  | .sendPacket now packet => (t.sendPacket now packet).toOption
  | .transmitThread now => (t.transmitStep now).map Prod.fst
  | .ackThread => t.ackThreadStep
  | .receiveAck received => t.receiveAck received

def Run (rtBuffer : B) (t : Transmitter B) : Prop :=
  Runs.Reachable (fun t e t' => next t e = some t') (.new rtBuffer) t

structure LoopSafe (t : Transmitter B) : Prop where
  running : ∀ fault, t.transmitThread ≠ .terminated fault
  addPacket : RetransmissionBuffer.readyForNewPacket t.retransmissionBuffer = true →
    ∀ o, ∃ b, RetransmissionBuffer.addPacket t.retransmissionBuffer o = .ok b
  tryGetPacketSpan : ∀ now, ∃ r, RetransmissionBuffer.tryGetPacketSpan t.retransmissionBuffer now = .ok r
  acknowledgePacket : ∀ a, ∃ b, RetransmissionBuffer.acknowledgePacket t.retransmissionBuffer a = .ok b

variable {t t' : Transmitter B}

theorem next_transmits {e : TransmitterEvent} (h : t.next e = some t') :
    (∃ now d p, t.Transmits now t' d p) ∨
      t'.retransmissionBuffer = t.retransmissionBuffer ∧ t'.transmitThread = t.transmitThread := by
  cases e with
  | sendPacket now packet =>
    simp only [next, sendPacket] at h
    cases hadd : t.inputBuffer.addPacket now packet with
    | error fault =>
      rw [hadd] at h
      cases h
    | ok inputBuffer =>
      rw [hadd] at h
      cases h
      exact .inr ⟨rfl, rfl⟩
  | transmitThread now =>
    obtain ⟨⟨t₁, d, p⟩, hstep, rfl⟩ := Option.map_eq_some_iff.mp h
    exact .inl ⟨now, d, p, transmitStep_transmits hstep⟩
  | ackThread =>
    cases ackThreadStep_takesAcks h with
    | loop => exact .inr ⟨rfl, rfl⟩
    | pushed => exact .inr ⟨rfl, rfl⟩
  | receiveAck received =>
    obtain ⟨-, point, rfl, -⟩ := receiveAck_point h
    exact .inr ⟨rfl, rfl⟩

section Lawful

variable [LawfulRetransmission B]

def Survives (t : Transmitter B) : Prop :=
  (∃ q, LawfulRetransmission.Holds t.retransmissionBuffer q) ∧ ∀ fault, t.transmitThread ≠ .terminated fault

theorem Survives.loopSafe (h : t.Survives) : t.LoopSafe := by
  obtain ⟨⟨q, hq⟩, hrunning⟩ := h
  constructor
  · exact hrunning
  · intro hready o
    obtain ⟨b, hadd, -⟩ := LawfulRetransmission.addPacket hq hready o
    exact ⟨b, hadd⟩
  · intro now
    obtain ⟨span, b, q', htry, -⟩ := LawfulRetransmission.tryGetPacketSpan hq now
    exact ⟨_, htry⟩
  · intro a
    obtain ⟨b, k, hack, -⟩ := LawfulRetransmission.acknowledgePacket hq a
    exact ⟨b, hack⟩

theorem Survives.transmits (h : t.Survives) {now : Clock} {d : Option (List Byte)} {p : Option DataPacket}
    (ht : t.Transmits now t' d p) : t'.Survives := by
  obtain ⟨⟨q, hq⟩, hrunning⟩ := h
  obtain ⟨span, b₁, q', htry₁, hq', -⟩ := LawfulRetransmission.tryGetPacketSpan hq now
  cases ht with
  | retransmitted _ htry =>
    cases htry₁.symm.trans htry
    exact ⟨⟨q', hq'⟩, by simp⟩
  | noneTimedOut _ htry =>
    cases htry₁.symm.trans htry
    exact ⟨⟨q', hq'⟩, by simp⟩
  | retransmissionFault _ htry => cases htry₁.symm.trans htry
  | notReady => exact ⟨⟨q, hq⟩, by simp⟩
  | noPacket => exact ⟨⟨q, hq⟩, by simp⟩
  | @sent newPkt _ _ _ hready _ hadd =>
    obtain ⟨b₂, hadd₂, hb₂⟩ := LawfulRetransmission.addPacket hq hready newPkt
    cases hadd₂.symm.trans hadd
    exact ⟨⟨_, hb₂⟩, by simp⟩
  | @sendFault newPkt _ _ _ hready _ hadd =>
    obtain ⟨b₂, hadd₂, -⟩ := LawfulRetransmission.addPacket hq hready newPkt
    cases hadd₂.symm.trans hadd
  | exited => exact ⟨⟨q, hq⟩, by simp⟩
  | emptied => exact ⟨⟨q, hq⟩, by simp⟩
  | endAcked => exact ⟨⟨q, hq⟩, hrunning⟩
  | @acked a _ _ _ _ _ _ hack =>
    obtain ⟨b₂, k, hack₂, hb₂⟩ := LawfulRetransmission.acknowledgePacket hq a
    cases hack₂.symm.trans hack
    exact ⟨⟨_, hb₂⟩, hrunning⟩
  | @ackFault a _ _ _ _ _ _ hack =>
    obtain ⟨b₂, k, hack₂, -⟩ := LawfulRetransmission.acknowledgePacket hq a
    cases hack₂.symm.trans hack

theorem Run.survives {rtBuffer : B} (hs : Run rtBuffer t)
    (h0 : LawfulRetransmission.Holds rtBuffer []) : t.Survives := by
  apply hs.invariant
  · exact ⟨⟨[], h0⟩, by simp [new]⟩
  · intro t e u h _ hstep
    rcases next_transmits hstep with ⟨now, d, p, ht⟩ | ⟨hbuffer, hpoint⟩
    · exact h.transmits ht
    · rw [Survives, hbuffer, hpoint]
      exact h

end Lawful

section Windows

variable [Rt.OverCircularBuffer B]

open Rt.CircularBuffer

theorem sameSize_of_map {x : Except Fault Rt.CircularBuffer} {w : Rt.CircularBuffer} {b : B}
    (h : ofWindow <$> x = .ok b) (hx : ∀ w', x = .ok w' → SameSize w w') : SameSize w (window b) := by
  cases x with
  | error fault => cases h
  | ok w' =>
    obtain rfl := Except.ok.inj h
    rw [window_ofWindow]
    exact hx w' rfl

theorem Transmits.sameSize {now : Clock} {d : Option (List Byte)} {p : Option DataPacket}
    (ht : t.Transmits now t' d p) :
    SameSize (window t.retransmissionBuffer) (window t'.retransmissionBuffer) := by
  have retried {span : Option (List Byte)} {b : B}
      (htry : RetransmissionBuffer.tryGetPacketSpan t.retransmissionBuffer now = .ok (span, b)) :
      SameSize (window t.retransmissionBuffer) (window b) := by
    rw [tryGetPacketSpan_window] at htry
    cases hw : (window t.retransmissionBuffer).tryGetPacketSpan now with
    | error fault =>
      rw [hw] at htry
      cases htry
    | ok r =>
      obtain ⟨found, w⟩ := r
      rw [hw] at htry
      obtain rfl : ofWindow w = b := congrArg Prod.snd (Except.ok.inj htry)
      rw [window_ofWindow]
      exact tryGetPacketSpan_sameSize hw
  cases ht with
  | retransmitted _ htry => exact retried htry
  | noneTimedOut _ htry => exact retried htry
  | sent _ _ _ hadd =>
    rw [addPacket_window] at hadd
    exact sameSize_of_map hadd (fun _ hw => addPacket_sameSize hw)
  | acked _ _ _ _ hack =>
    rw [acknowledgePacket_window] at hack
    exact sameSize_of_map hack (fun _ hw => acknowledgePacket_sameSize hw)
  | _ => exact ⟨rfl, rfl⟩

theorem Run.sameSize {rtBuffer : B} (hs : Run rtBuffer t) :
    SameSize (window rtBuffer) (window t.retransmissionBuffer) := by
  apply hs.invariant
  · exact ⟨rfl, rfl⟩
  · intro t e u h _ hstep
    rcases next_transmits hstep with ⟨now, d, p, ht⟩ | ⟨hbuffer, -⟩
    · exact ⟨ht.sameSize.1.trans h.1, ht.sameSize.2.trans h.2⟩
    · rw [hbuffer]
      exact h

end Windows

end Transmitter

theorem Rt.new_holdsOrEmpty (windowSize : UInt16) (timeout : ℤ) (first : SequenceNumber) :
    Rt.HoldsOrEmpty (.new windowSize timeout first) [] := by
  by_cases hw : 0 < windowSize.toNat
  · exact .inl (Rt.CircularBuffer.new_holds hw timeout first)
  · exact .inr ⟨Nat.eq_zero_of_not_pos hw, rfl, rfl⟩

/-- No sequence of ACKs stops the transmit thread; an index is never checked against anything but a buffer
of `windowSize` slots. -/
theorem acks_do_not_stop_transmit_thread (windowSize : UInt16) (timeout : ℤ) (first : SequenceNumber) :
    (∀ t, Transmitter.Run (Rt.GoBackN.new windowSize timeout first) t →
      t.LoopSafe ∧ t.retransmissionBuffer.window.windowSize = windowSize ∧
        t.retransmissionBuffer.window.buffer.length = windowSize.toNat) ∧
    (∀ t, Transmitter.Run (Rt.SelectiveRepeat.new windowSize timeout first) t →
      t.LoopSafe ∧ t.retransmissionBuffer.window.windowSize = windowSize ∧
        t.retransmissionBuffer.window.buffer.length = windowSize.toNat) ∧
    (∀ t, Transmitter.Run (Rt.StopAndWait.new timeout) t → t.LoopSafe) := by
  have hsize : (Rt.CircularBuffer.new windowSize timeout first).buffer.length = windowSize.toNat :=
    List.length_replicate
  refine ⟨fun t hs => ?_, fun t hs => ?_, fun t hs => ?_⟩
  · have h := Transmitter.Run.survives hs (Rt.new_holdsOrEmpty windowSize timeout first)
    have hsame := Transmitter.Run.sameSize hs
    exact ⟨h.loopSafe, hsame.1, hsame.2.trans hsize⟩
  · have h := Transmitter.Run.survives hs (Rt.new_holdsOrEmpty windowSize timeout first)
    have hsame := Transmitter.Run.sameSize hs
    exact ⟨h.loopSafe, hsame.1, hsame.2.trans hsize⟩
  · exact (Transmitter.Run.survives hs (show (Rt.StopAndWait.new timeout).Keeps [] from rfl)).loopSafe

def hostileEvents : List TransmitterEvent :=
  [.sendPacket (fun _ => 0) (Rt.samplePacket 0).packet, .transmitThread (fun _ => 0),
    .transmitThread (fun _ => 0), .ackThread, .receiveAck (some (receiveInto (htons 2) emptyReceiveBuffer)),
    .ackThread, .transmitThread (fun _ => 0)]

theorem acks_do_not_stop_transmit_thread_run :
    ∃ t, Transmitter.Run (Rt.GoBackN.new 4 5 0) t ∧
      t.retransmissionBuffer.window.packetsInBuffer = 2 ^ 64 - 2 ∧ t.LoopSafe := by
  have hrun : ((Runs.replay Transmitter.next (Transmitter.new (Rt.GoBackN.new 4 5 0)) hostileEvents).any
      fun t => t.retransmissionBuffer.window.packetsInBuffer == 2 ^ 64 - 2) = true := by
    decide +kernel
  obtain ⟨t, ht, hcount⟩ := Runs.exists_reachable hrun
  exact ⟨t, ht, by simpa using hcount, ((acks_do_not_stop_transmit_thread 4 5 0).1 t ht).1⟩

end ArqBenchmark
