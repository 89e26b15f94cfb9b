import ArqBenchmark.Delivery

namespace ArqBenchmark

open ResequencingView DataPacket

def EndsTransmission (packets : List DataPacket) : Prop :=
  ∀ i p, packets[i]? = some p → (p.getPayloadReadSpan = [] ↔ i + 1 = packets.length)

theorem DataPacket.Framed.isEndOfTx_iff {p : DataPacket} (h : p.Framed) :
    p.isEndOfTx = true ↔ p.getPayloadReadSpan = [] := by
  rw [isEndOfTx, beq_iff_eq, ← List.length_eq_zero_iff, h.payload_length, ← UInt16.toNat_inj]
  rfl

section Endings

variable {B R : Type} [RetransmissionBuffer B] [LawfulRetransmission B] [ResequencingView R]

variable {packets : List DataPacket} {rtBuffer : B} {rsBuffer : R} {s s' : System B R} {act : Action}
  {a : SequenceNumber}

structure Finished (packets : List DataPacket) (s : System B R) : Prop where
  acked : s.transmitter.endOfTxAcked = true ∨ s.receiver.ackedEndOfTx = true →
    packets.length ≤ frontier s.receiver.resequencingBuffer
  exited : s.receiver.resequencingThread = .exited → s.receiver.ackedEndOfTx = true

theorem Carried.end_number_eq (h : Carried packets s) (hf : ∀ p ∈ packets, p.Framed)
    (hend : EndsTransmission packets) (ha : EndNumber s.history.firstSent a) :
    ∃ i, i + 1 = packets.length ∧ a = UInt16.ofNat i := by
  obtain ⟨i, p, hp, hendOfTx, rfl⟩ := ha
  obtain ⟨p₀, hp₀, rfl⟩ := h.sent_getElem? hp
  rw [numbered_isEndOfTx, (hf p₀ (List.mem_of_getElem? hp₀)).isEndOfTx_iff, hend i p₀ hp₀] at hendOfTx
  exact ⟨i, hendOfTx, rfl⟩

theorem Carried.all_accepted (h : Carried packets s) (hf : ∀ p ∈ packets, p.Framed)
    (hn : packets.length < 65536) (hend : EndsTransmission packets) (ho : Ordered s) (ha : s.HasAck a)
    (hnumber : EndNumber s.history.firstSent a) : packets.length ≤ frontier s.receiver.resequencingBuffer := by
  obtain ⟨i, hi, rfl⟩ := h.end_number_eq hf hend hnumber
  have hi' : (UInt16.ofNat i).toNat = i := toNat_ofNat_of_lt (by omega)
  -- The last number is below 65535, so no early ACK has it.
  rcases ho.acks _ ha with hlt | ⟨-, hmax⟩
  · omega
  · rw [hmax] at hi'
    have hmax' : (65535 : UInt16).toNat = 65535 := rfl
    omega

end Endings

section Runs

variable {B R : Type} [RetransmissionBuffer B] [ResequencingBuffer R]

variable {packets : List DataPacket} {rtBuffer : B} {rsBuffer : R} {s s' : System B R} {act : Action}
  {a : SequenceNumber}

theorem System.endOfTxAcked_of_step (hs : s.step act = some s') (ha : s'.transmitter.endOfTxAcked = true) :
    s.transmitter.endOfTxAcked = true ∨ ∃ sn, s.HasAck sn ∧ s.transmitter.endOfTxSeqNum = some sn := by
  rcases transmits_or_same hs with ⟨now, t, d, p, -, ht, rfl⟩ | hsame
  · cases ht with
    | @endAcked sn queue _ _ hqueue hend =>
      exact .inr ⟨sn, .inr (.inr (.inr (hqueue ▸ List.mem_cons_self))), hend.symm⟩
    | _ => exact .inl ha
  · exact .inl (hsame.endOfTxAcked ▸ ha)

theorem System.RxStep.ackedEndOfTx_cases {r r' : Receiver R} (h : RxStep r act r') :
    r'.ackedEndOfTx = r.ackedEndOfTx ∨ ∃ sn, r.ackThread = .sent sn ∧
      r'.ackedEndOfTx = (r.ackedEndOfTx || r.endOfTxSn == some sn) := by
  cases h with
  | same => exact .inl rfl
  | resequences hr => cases hr <;> exact .inl rfl
  | received hr =>
    obtain ⟨-, point, rfl, -⟩ := Receiver.receivePacket_point hr
    exact .inl rfl
  | sendsAcks hr =>
    cases hr with
    | @sent sn hpoint => exact .inr ⟨sn, hpoint, rfl⟩
    | _ => exact .inl rfl
  | tryGetPacket => exact .inl rfl

theorem System.RxStep.ackedEndOfTx {r r' : Receiver R} (h : RxStep r act r') (ha : r'.ackedEndOfTx = true) :
    r.ackedEndOfTx = true ∨ ∃ sn, r.ackThread = .sent sn ∧ r.endOfTxSn = some sn := by
  rcases h.ackedEndOfTx_cases with hsame | ⟨sn, hpoint, hnew⟩
  · exact .inl (hsame.symm.trans ha)
  · rcases Bool.or_eq_true_iff.mp (hnew.symm.trans ha) with hacked | hend
    · exact .inl hacked
    · exact .inr ⟨sn, hpoint, beq_iff_eq.mp hend⟩

theorem System.RxStep.ackedEndOfTx_mono {r r' : Receiver R} (h : RxStep r act r') (ha : r.ackedEndOfTx = true) :
    r'.ackedEndOfTx = true := by
  rcases h.ackedEndOfTx_cases with hsame | ⟨sn, -, hnew⟩
  · exact hsame.trans ha
  · exact hnew.trans (Bool.or_eq_true_iff.mpr (.inl ha))

theorem System.RxStep.exited {r r' : Receiver R} (h : RxStep r act r') (he : r'.resequencingThread = .exited) :
    r.ackedEndOfTx = true ∨ r.resequencingThread = .exited := by
  cases h with
  | same => exact .inr he
  | resequences hr =>
    cases hr with
    | loop =>
      left
      cases hacked : r.ackedEndOfTx with
      | true => rfl
      | false => simp [hacked] at he
    | @added p ack => cases ack <;> cases he
    | delivered => exact .inr he
    | _ => cases he
  | received hr =>
    obtain ⟨-, point, rfl, rfl | ⟨p, rfl⟩ | ⟨fault, rfl⟩⟩ := Receiver.receivePacket_point hr <;> cases he
  | sendsAcks hr => cases hr <;> exact .inr he
  | tryGetPacket => exact .inr he

variable [LawfulRetransmission B] [ResequencingView R] [LawfulResequencing R]

theorem Carried.finished_step (h : Carried packets s) (hf : ∀ p ∈ packets, p.Framed)
    (hn : packets.length < 65536) (hend : EndsTransmission packets) (ho : Ordered s) (hfin : Finished packets s)
    (hs : s.step act = some s') : Finished packets s' := by
  have hrx := System.RxStep.of_step hs
  refine ⟨fun hacked => Nat.le_trans ?_ (h.rx_step hn ho hs).2, fun he => ?_⟩
  · rcases hacked with hacked | hacked
    · rcases System.endOfTxAcked_of_step hs hacked with hold | ⟨sn, hsn, hnumber⟩
      · exact hfin.acked (.inl hold)
      · exact h.all_accepted hf hn hend ho hsn (h.tx.end_number sn hnumber)
    · rcases hrx.ackedEndOfTx hacked with hold | ⟨sn, hsn, hnumber⟩
      · exact hfin.acked (.inr hold)
      · exact h.all_accepted hf hn hend ho (.inl (.inr (.inr (.inr hsn)))) (h.rx.end_number sn hnumber)
  · rcases hrx.exited he with hold | hold
    · exact hrx.ackedEndOfTx_mono hold
    · exact hrx.ackedEndOfTx_mono (hfin.exited hold)

theorem System.Run.finished (hi : Initial rtBuffer rsBuffer) (hf : ∀ p ∈ packets, p.Framed)
    (hn : packets.length < 65536) (hend : EndsTransmission packets)
    (h : System.Run packets rtBuffer rsBuffer s) : Finished packets s := by
  refine Runs.Reaches.invariant_of h ⟨?_, ?_⟩ (fun t ht => System.Run.sound hi hf hn ht.reachable)
    (fun t act u ht _ hfin _ hs => ht.1.finished_step hf hn hend ht.2 hfin hs)
  · rintro (ha | ha) <;> cases ha
  · rintro hexited
    cases hexited

end Runs

/-- Once a side takes the transmission for complete, the resequencing buffer has accepted every packet, and
by the time that its thread has exited the output buffer has too. -/
def System.CompleteAtEnd {B R : Type} (packets : List DataPacket) (s : System B R) : Prop :=
  s.transmitter.endOfTxAcked = true ∨ s.receiver.ackedEndOfTx = true →
    (∀ i p, packets[i]? = some p → ∃ p' ∈ s.history.rsAccepted, p'.contents = (numbered i p).contents) ∧
    (s.receiver.resequencingThread = .exited →
      s.history.obAccepted.map contents = (outgoing packets).map contents)

theorem Finished.completeAtEnd {B R : Type} [RetransmissionBuffer B] [LawfulRetransmission B]
    [ResequencingBuffer R] [ResequencingView R] [LawfulResequencing R] {packets : List DataPacket}
    {s : System B R} (h : Finished packets s) (hc : Carried packets s) (hf : ∀ p ∈ packets, p.Framed)
    (hn : packets.length < 65536) (ho : Ordered s) : s.CompleteAtEnd packets := by
  intro hacked
  have hall := h.acked hacked
  have hnumber : ∀ i p, s.history.firstSent[i]? = some p → p.header.sequenceNumber = UInt16.ofNat i :=
    fun i p hp => hc.sent_number hp
  have hlen := hc.sent_length_le hn
  constructor
  · intro i p hp
    have hi : i < packets.length := (List.getElem?_eq_some_iff.mp hp).1
    obtain ⟨p', hp', hsn⟩ := ho.rx.covered i (Nat.lt_of_lt_of_le hi hall)
    obtain ⟨q, hq, hcopy⟩ := (ho.rx.received p' hp').number hnumber hlen
    rw [hsn] at hq
    obtain ⟨p₀, hp₀, rfl⟩ := hc.sent_getElem? hq
    obtain rfl := Option.some.inj (hp.symm.trans hp₀)
    exact ⟨p', hp', hcopy.contents_eq (hc.framed hf (List.mem_of_getElem? hq))⟩
  · intro hexited
    have hempty := ho.rx.waits (.inr hexited)
    have hdrained := ho.rx.drained
    rw [hempty] at hdrained
    have hcount : packets.length ≤ s.history.obAccepted.length := Nat.le_trans hall hdrained
    have hprefix : s.history.obAccepted.map contents <+: (outgoing packets).map contents := by
      refine (hc.deliversInOrder hf ho).trans (List.IsPrefix.map _ ?_)
      rw [← hc.submitted]
      exact outgoing_prefix_append _ _
    refine hprefix.eq_of_length_le ?_
    rw [List.length_map, List.length_map, outgoing_length]
    exact hcount

/-- Neither side takes the transmission for complete before every packet has been delivered, to be taken by the
application. -/
theorem end_of_transmission_completes (packets : List DataPacket) (hp : ∀ p ∈ packets, p.TransmitSide)
    (hn : packets.length < 2 ^ 16) (hend : EndsTransmission packets) :
    ForEachPair fun rtBuffer rsBuffer =>
      (∀ s, System.Run packets rtBuffer rsBuffer s → s.CompleteAtEnd packets) ∧
        ∀ acts s, Runs.replay System.step (System.new packets rtBuffer rsBuffer) acts = some s →
          s.Keeps ((System.new packets rtBuffer rsBuffer).taken acts) := by
  have hf : ∀ p ∈ packets, p.Framed := fun p hmem => (hp p hmem).framed
  apply ForEachPair.of_initial
  intro B R _ _ _ _ _ rtBuffer rsBuffer hi
  constructor
  · intro s hs
    obtain ⟨hc, ho⟩ := hs.sound hi hf hn
    exact (hs.finished hi hf hn hend).completeAtEnd hc hf hn ho
  · intro acts s hs
    exact System.keeps_taken hs

theorem samplePackets_endsTransmission : EndsTransmission samplePackets := by
  rintro (_ | _ | i) p hp
  · obtain rfl := Option.some.inj hp
    decide
  · obtain rfl := Option.some.inj hp
    decide
  · cases hp

theorem end_of_transmission_completes_run :
    ∃ s, System.Run samplePackets (Rt.StopAndWait.new 100) (Rs.StopAndWait.new firstSequenceNumber) s ∧
      (s.transmitter.endOfTxAcked = true ∧ s.receiver.ackedEndOfTx = true) ∧ s.CompleteAtEnd samplePackets ∧
        ∃ p q, s.Keeps [p, q] := by
  let s₀ := System.new samplePackets (Rt.StopAndWait.new 100) (Rs.StopAndWait.new firstSequenceNumber)
  let acts : List Action := sampleRun ++ [.tryGetPacket, .tryGetPacket]
  have hacked : ((Runs.replay System.step s₀ acts).any fun s =>
      s.transmitter.endOfTxAcked && s.receiver.ackedEndOfTx) = true := by decide +kernel
  obtain ⟨s, hs, hboth⟩ := (Option.any_eq_true _ _).mp hacked
  obtain ⟨p, q, hpq⟩ : ∃ p q, s₀.taken acts = [p, q] := List.length_eq_two.mp (by decide +kernel)
  have hrun : System.Run samplePackets _ _ s := Runs.reaches_of_replay (Runs.alongRun_true _ _) hs
  have hsample := (end_of_transmission_completes samplePackets samplePackets_transmitSide (by decide)
    samplePackets_endsTransmission).1 100
  refine ⟨s, hrun, by simpa using hboth, hsample.1 s hrun, p, q, ?_⟩
  rw [← hpq]
  exact hsample.2 acts s hs

end ArqBenchmark
