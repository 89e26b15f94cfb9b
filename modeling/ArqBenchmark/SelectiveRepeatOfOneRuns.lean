import ArqBenchmark.LiveSystem
import ArqBenchmark.SelectiveRepeatAgreement

namespace ArqBenchmark

open ResequencingView DataPacket

variable {packets : List DataPacket} {N : UInt16} {timeout : ℤ}
  {s s' : System Rt.SelectiveRepeat Rs.SelectiveRepeat} {act : Action}

namespace Rs.SelectiveRepeat

variable {b b' : SelectiveRepeat} {w w' : List (Option DataPacket)} {p : DataPacket} {run : List DataPacket}

structure Standing (b : SelectiveRepeat) : Prop where
  size : b.windowSize = 1
  expected : b.earliestExpected = firstSequenceNumber
  shadow : ∀ p ∈ b.shadowBuffer, p.header.sequenceNumber = firstSequenceNumber

theorem Settled.completes_iff (h : b.Settled w) (hsize : b.windowSize = 1) :
    b.Completes p ↔ p.header.sequenceNumber = b.earliestExpected := by
  have hlen := h.window_length
  rw [hsize, show (1 : UInt16).toNat = 1 from rfl] at hlen
  obtain ⟨slot, rfl⟩ := List.length_eq_one_iff.mp hlen
  have hzero : b.packetsInBuffer = 0 := by
    rw [h.count]
    cases slot with
    | none => rfl
    | some x => exact absurd rfl (h.first_missing x)
  rw [Completes, hzero, hsize]
  exact and_iff_left rfl

theorem Standing.added (h : b.Standing) (hb : b.Settled w) (ha : Added b w p run b' w') : b'.Standing := by
  have hsize : b.windowSize.toNat = 1 := congrArg UInt16.toNat h.size
  have hrun := ha.length_le
  refine ⟨ha.size.trans h.size, ?_, fun x hx => ?_⟩
  · by_cases hc : b.Completes p
    · rw [(ha.stuck hc).1, h.expected]
    · have hnil : run = [] := by
        by_contra hne
        exact hc ((hb.completes_iff h.size).mpr ((ha.pushes (by omega)).mp hne))
      rw [ha.moved hc, hnil, h.expected]
      decide
  · rw [ha.shadow] at hx
    rcases List.mem_append.mp hx with hx | hx
    · exact h.shadow x hx
    · obtain ⟨i, hi⟩ := List.getElem?_of_mem hx
      have hlt : i < run.length := (List.getElem?_eq_some_iff.mp hi).1
      have hnumber := ha.sequence i x hi
      rw [h.expected] at hnumber
      obtain rfl : i = 0 := by omega
      exact UInt16.toNat_inj.mp hnumber

theorem Standing.getNextPacket (h : b.Standing) : b.getNextPacket.2.Standing := by
  refine ⟨h.size, h.expected, fun x hx => h.shadow x ?_⟩
  cases hs : b.shadowBuffer with
  | nil =>
    simp only [SelectiveRepeat.getNextPacket, hs, SafeQueue.tryPop] at hx
    cases hx
  | cons y shadow =>
    simp only [SelectiveRepeat.getNextPacket, hs, SafeQueue.tryPop] at hx
    exact List.mem_cons_of_mem y hx

end Rs.SelectiveRepeat

structure System.AtFirstPacket (s : System Rt.SelectiveRepeat Rs.SelectiveRepeat) : Prop where
  standing : s.receiver.resequencingBuffer.Standing
  delivered : s.history.obAccepted.length ≤ 1

theorem System.AtFirstPacket.step (h : s.AtFirstPacket) (hc : Carried packets s) (ho : Ordered s)
    (hs : s.step act = some s') : s'.AtFirstPacket := by
  rcases System.resequences_or_same hs with ⟨now, r, accepted, delivered, hr, rfl⟩ | hsame
  · cases hr with
    | @added p ack b _ hadd =>
      obtain ⟨w, hw⟩ := hc.rx.works
      obtain ⟨run, b', w', hadd', ha⟩ := hw.addPacket p
      obtain ⟨-, rfl⟩ := Prod.mk.inj (Except.ok.inj (hadd'.symm.trans hadd))
      exact ⟨h.standing.added hw ha, by simpa using h.delivered⟩
    | @delivered p b _ hnext =>
      obtain ⟨hp, rfl⟩ := Prod.mk.inj hnext
      refine ⟨h.standing.getNextPacket, ?_⟩
      have hmem : p ∈ s.receiver.resequencingBuffer.shadowBuffer := by
        cases hshadow : s.receiver.resequencingBuffer.shadowBuffer with
        | nil =>
          rw [hshadow] at hp
          cases hp
        | cons x shadow =>
          rw [hshadow] at hp
          obtain rfl : x = p := Option.some.inj hp
          exact List.mem_cons_self
      -- The output buffer accepts packet 0 only as its first packet.
      by_cases hempty : s.history.obAccepted.length = 0
      · change (s.history.obAccepted ++ _).length ≤ 1
        rw [List.length_append, hempty, Nat.zero_add]
        exact Option.length_toList_le
      · have hone : s.history.obAccepted.length = 1 := by
          have := h.delivered
          omega
        have hne : p.header.sequenceNumber ≠ s.receiver.outputBuffer.nextSequenceNumber := by
          rw [ho.rx.expected, hone, h.standing.shadow p hmem]
          decide
        rw [OutputBuffer.addPacket_unexpected now hne]
        simpa using h.delivered
    | drained _ hnext =>
      obtain ⟨-, rfl⟩ := Prod.mk.inj hnext
      exact ⟨h.standing.getNextPacket, by simpa using h.delivered⟩
    | _ => exact ⟨h.standing, by simpa using h.delivered⟩
  · exact ⟨hsame.resequencingBuffer ▸ h.standing, hsame.obAccepted ▸ h.delivered⟩

/-- With a receive window of one, the only value that is ever acknowledged is 65535. No thread exits, and no
more than the first packet is handed over. -/
structure System.NeverCompletes (s : System Rt.SelectiveRepeat Rs.SelectiveRepeat) : Prop where
  acks : ∀ a, s.HasAck a → a = 65535
  delivered : s.history.obAccepted.length ≤ 1
  acked : s.transmitter.endOfTxAcked = false ∧ s.receiver.ackedEndOfTx = false
  transmitter : s.transmitter.transmitThread ≠ .exited ∧ s.transmitter.ackThread ≠ .exited
  receiver : s.receiver.resequencingThread ≠ .exited ∧ s.receiver.ackThread ≠ .exited

theorem selective_repeat_of_one_never_completes (packets : List DataPacket) (hp : ∀ p ∈ packets, p.TransmitSide)
    (hend : EndsTransmission packets) (hne : packets ≠ []) (hn : packets.length < 2 ^ 16) (N : UInt16)
    (timeout : ℤ) (s : System Rt.SelectiveRepeat Rs.SelectiveRepeat)
    (hs : System.Run packets (.new N timeout firstSequenceNumber) (.new 1 firstSequenceNumber) s) :
    s.NeverCompletes := by
  have hf : ∀ p ∈ packets, p.Framed := fun p hmem => (hp p hmem).framed
  have hi := initial_selectiveRepeat N 1 timeout
  obtain ⟨hc, ho⟩ := hs.sound hi hf hn
  have hfinished := hs.finished hi hf hn hend
  have hfirst : s.AtFirstPacket := by
    refine Runs.Reaches.invariant_of (K := fun s => Carried packets s ∧ Ordered s) hs ⟨⟨rfl, rfl, ?_⟩, Nat.zero_le _⟩
      (fun t ht => System.Run.sound hi hf hn ht.reachable) (fun t act u ht _ h _ hs => h.step ht.1 ht.2 hs)
    rintro p ⟨⟩
  have hruns : RunsUntilAcked s.transmitter ∧ (s.receiver.ackThread = .exited → s.receiver.ackedEndOfTx = true) := by
    refine Runs.Reaches.invariant (P := fun s : System Rt.SelectiveRepeat Rs.SelectiveRepeat =>
      RunsUntilAcked s.transmitter ∧ (s.receiver.ackThread = .exited → s.receiver.ackedEndOfTx = true)) hs
      ⟨⟨by rintro ⟨⟩, by rintro ⟨⟩⟩, by rintro ⟨⟩⟩ ?_
    rintro t act u ⟨hruns, hexits⟩ - hstep
    have hrx := System.RxStep.of_step hstep
    refine ⟨hruns.step (.of_step hstep), fun hexited => hrx.ackedEndOfTx_mono ?_⟩
    exact (hrx.ackThread_exited hexited).elim id hexits
  have hfrontier : frontier s.receiver.resequencingBuffer = 0 := by
    change s.receiver.resequencingBuffer.earliestExpected.toNat = 0
    rw [hfirst.standing.expected]
    rfl
  have hnone : ¬ (s.transmitter.endOfTxAcked = true ∨ s.receiver.ackedEndOfTx = true) := by
    intro hacked
    have hall := hfinished.acked hacked
    rw [hfrontier, Nat.le_zero, List.length_eq_zero_iff] at hall
    exact hne hall
  obtain ⟨htx, hrx⟩ := not_or.mp hnone
  refine ⟨fun a ha => ?_, hfirst.delivered, ⟨Bool.eq_false_iff.mpr htx, Bool.eq_false_iff.mpr hrx⟩,
    ⟨fun he => htx (hruns.1.transmit he), fun he => htx (hruns.1.ack he)⟩,
    ⟨fun he => hrx (hfinished.exited he), fun he => hrx (hruns.2 he)⟩⟩
  rcases ho.acks a ha with hlt | ⟨-, hmax⟩
  · rw [hfrontier] at hlt
    exact absurd hlt (Nat.not_lt_zero _)
  · exact hmax

theorem selective_repeat_of_one_never_completes_run :
    ∃ s, System.Run samplePackets (.new 2 100 firstSequenceNumber) (.new 1 firstSequenceNumber) s ∧
      s.history.obAccepted.length = 1 ∧ s.NeverCompletes := by
  have hrun : ((Runs.replay System.step (System.new samplePackets (Rt.SelectiveRepeat.new 2 100 firstSequenceNumber)
      (Rs.SelectiveRepeat.new 1 firstSequenceNumber)) sampleRun).any
        fun s => s.history.obAccepted.length == 1) = true := by
    decide +kernel
  obtain ⟨s, hs, hlen⟩ := Runs.exists_reachable hrun
  exact ⟨s, hs, by simpa using hlen, selective_repeat_of_one_never_completes samplePackets
    samplePackets_transmitSide samplePackets_endsTransmission (by decide) (by decide) 2 100 s hs⟩

end ArqBenchmark
