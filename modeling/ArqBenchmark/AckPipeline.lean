import ArqBenchmark.LiveSystem
import ArqBenchmark.ReliableChannel

namespace ArqBenchmark

open DataPacket

section Points

variable {B R : Type}

def RxAckPoint.acks : RxAckPoint → List SequenceNumber
  | .sending a => [a]
  | _ => []

def ResequencingPoint.acks : ResequencingPoint → List SequenceNumber
  | .pushing a => [a]
  | _ => []

def TxAckPoint.acks : TxAckPoint → List SequenceNumber
  | .pushing a => [a]
  | _ => []

def Receiver.owed (r : Receiver R) : List SequenceNumber :=
  r.ackThread.acks ++ r.ackQueue ++ r.resequencingThread.acks

def Transmitter.taken (t : Transmitter B) : List SequenceNumber := t.ackQueue ++ t.ackThread.acks

def System.acks (s : System B R) : List SequenceNumber :=
  s.transmitter.taken ++ s.ackChannel.map ntohs ++ s.receiver.owed

@[simp] theorem ntohs_htons_self (a : UInt16) : ntohs (htons a) = a := by
  have h := ntohs_htons a []
  rwa [List.append_nil] at h

theorem Receiver.SendsAcks.owed {r r' : Receiver R} {d : Option (List Byte)} (hr : r.SendsAcks r' d) :
    r.owed = d.toList.map ntohs ++ r'.owed := by
  cases hr with
  | loop hpoint => cases hacked : r.ackedEndOfTx <;> simp [Receiver.owed, RxAckPoint.acks, hpoint]
  | popped hpoint hqueue => simp [Receiver.owed, RxAckPoint.acks, hpoint, hqueue]
  | idle hpoint => simp [Receiver.owed, RxAckPoint.acks, hpoint]
  | sending hpoint => simp [Receiver.owed, RxAckPoint.acks, hpoint]
  | sent hpoint => simp [Receiver.owed, RxAckPoint.acks, hpoint]

theorem Receiver.SendsAcks.sends {r r' : Receiver R} {d : Option (List Byte)} {a : SequenceNumber}
    (hr : r.SendsAcks r' d) (hsent : r'.ackThread = .sent a) : d = some (htons a) := by
  cases hr with
  | loop => cases hacked : r.ackedEndOfTx <;> simp [hacked] at hsent
  | sending => rw [RxAckPoint.sent.inj hsent]
  | _ => cases hsent

theorem Receiver.owed_of_receivePacket {r r' : Receiver R} {received : Option (ℕ × ReceiveBuffer)}
    (hr : r.receivePacket received = some r') : r'.owed = r.owed := by
  obtain ⟨hpoint, point, rfl, hnext⟩ := Receiver.receivePacket_point hr
  rcases hnext with rfl | ⟨p, rfl⟩ | ⟨fault, rfl⟩ <;> simp [Receiver.owed, ResequencingPoint.acks, hpoint]

theorem Transmitter.TakesAcks.taken {t t' : Transmitter B} (ht : t.TakesAcks t') : t'.taken = t.taken := by
  cases ht with
  | loop hpoint => cases hacked : t.endOfTxAcked <;> simp [Transmitter.taken, TxAckPoint.acks, hpoint]
  | pushed hpoint => simp [Transmitter.taken, TxAckPoint.acks, hpoint]

theorem Transmitter.Transmits.taken [RetransmissionBuffer B] {t t' : Transmitter B} {now : Clock}
    {d : Option (List Byte)} {p : Option DataPacket} (ht : t.Transmits now t' d p) :
    t'.taken = t.taken ∧ t'.endOfTxAcked = t.endOfTxAcked ∨
      ∃ sn, t.taken = sn :: t'.taken ∧ (t'.endOfTxAcked = true ∨ some sn ≠ t.endOfTxSeqNum) := by
  cases ht with
  | endAcked _ _ hqueue => exact .inr ⟨_, by rw [Transmitter.taken, hqueue]; rfl, .inl rfl⟩
  | acked _ _ hqueue hne => exact .inr ⟨_, by rw [Transmitter.taken, hqueue]; rfl, .inr hne⟩
  | ackFault _ _ hqueue hne => exact .inr ⟨_, by rw [Transmitter.taken, hqueue]; rfl, .inr hne⟩
  | _ => exact .inl ⟨rfl, rfl⟩

theorem Receiver.Resequences.exits [ResequencingBuffer R] {r r' : Receiver R} {now : Clock}
    {accepted delivered : Option DataPacket} (hr : r.Resequences now r' accepted delivered)
    (hexited : r'.resequencingThread = .exited) : r.ackedEndOfTx = true := by
  cases hr with
  | loop hpoint =>
    cases hacked : r.ackedEndOfTx with
    | true => rfl
    | false => simp [hacked] at hexited
  | @added p ack b => cases ack <;> cases hexited
  | delivered hpoint => cases hpoint.symm.trans hexited
  | _ => cases hexited

theorem Receiver.Resequences.waits [ResequencingBuffer R] {r r' : Receiver R} {now : Clock}
    {accepted delivered : Option DataPacket} (hr : r.Resequences now r' accepted delivered)
    (hwaiting : r'.resequencingThread = .receiving) :
    r.resequencingThread = .loop ∧ r'.resequencingBuffer = r.resequencingBuffer := by
  cases hr with
  | loop hpoint => exact ⟨hpoint, rfl⟩
  | @added p ack b => cases ack <;> cases hwaiting
  | delivered hpoint => cases hpoint.symm.trans hwaiting
  | _ => cases hwaiting

end Points

structure Streamable (packets : List DataPacket) : Prop where
  fills : ∀ p ∈ packets, p.Framed ∧ p.FillsPayload
  ends : EndsTransmission packets
  nonempty : packets ≠ []
  short : packets.length ≤ 65536

variable {packets : List DataPacket} {s s' : System Rt.DummySCTP Rs.DummySCTP} {act : Action} {a : SequenceNumber}

theorem RxPiped.adds_or_same {sent delivered flight : List DataPacket} {r r' : Receiver Rs.DummySCTP} {now : Clock}
    {accepted output : Option DataPacket} (h : RxPiped sent delivered flight r)
    (hf : ∀ q ∈ sent, q.Framed ∧ q.FillsPayload)
    (hnumber : ∀ i q, sent[i]? = some q → q.header.sequenceNumber = UInt16.ofNat i)
    (hr : r.Resequences now r' accepted output) :
    (∃ p q, r.resequencingThread = .adding p ∧ p.IsCopy q ∧ output = none ∧
      sent[(delivered ++ r.resequencingBuffer.shadowBuffer).length]? = some q ∧
      r' = { r with
        resequencingBuffer :=
          ⟨r.resequencingBuffer.shadowBuffer ++ [q], r.resequencingBuffer.nextSequenceNumber + 1⟩
        resequencingThread := .pushing q.header.sequenceNumber }) ∨
    r'.owed = r.owed ∧ r'.ackThread = r.ackThread ∧ r'.ackedEndOfTx = r.ackedEndOfTx ∧
      delivered ++ output.toList ++ r'.resequencingBuffer.shadowBuffer =
        delivered ++ r.resequencingBuffer.shadowBuffer := by
  cases hr with
  | loop hpoint =>
    right
    cases hacked : r.ackedEndOfTx <;> simp [Receiver.owed, ResequencingPoint.acks, hpoint]
  | received hpoint => exact .inr (by simp [Receiver.owed, ResequencingPoint.acks, hpoint])
  | @added p ack b hpoint hadd =>
    obtain ⟨hand, hpipe, hhand⟩ := h.pipe
    rw [hpoint] at hhand
    obtain ⟨q, rfl, hcopy⟩ := hhand
    have hq : sent[(delivered ++ r.resequencingBuffer.shadowBuffer).length]? = some q := by
      rw [hpipe]
      simp
    obtain ⟨q', hadd', hpipe'⟩ := h.added hf hnumber hpoint
    obtain rfl : q' = q := by
      rw [hpipe'] at hq
      simpa using hq
    obtain ⟨rfl, rfl⟩ := Prod.mk.inj (Except.ok.inj (hadd.symm.trans hadd'))
    exact .inl ⟨p, q', hpoint, hcopy, rfl, hq, rfl⟩
  | faulted hpoint hadd =>
    obtain ⟨q, hadd', -⟩ := h.added hf hnumber hpoint
    cases hadd.symm.trans hadd'
  | pushed hpoint => exact .inr (by simp [Receiver.owed, ResequencingPoint.acks, hpoint, SafeQueue.push])
  | delivered hpoint hnext =>
    right
    rcases hqueue : r.resequencingBuffer.shadowBuffer with _ | ⟨q, queue⟩
    · simp [ResequencingBuffer.getNextPacket, Rs.DummySCTP.getNextPacket, hqueue, SafeQueue.tryPop] at hnext
    · simp only [ResequencingBuffer.getNextPacket, Rs.DummySCTP.getNextPacket, hqueue, SafeQueue.tryPop,
        Prod.mk.injEq, Option.some.injEq] at hnext
      obtain ⟨rfl, rfl⟩ := hnext
      rw [OutputBuffer.addPacket_expected now (h.delivers hnumber hqueue)]
      exact ⟨rfl, rfl, rfl, by simp⟩
  | drained hpoint hnext =>
    right
    rcases hqueue : r.resequencingBuffer.shadowBuffer with _ | ⟨q, queue⟩
    · simp only [ResequencingBuffer.getNextPacket, Rs.DummySCTP.getNextPacket, hqueue, SafeQueue.tryPop,
        Prod.mk.injEq, true_and] at hnext
      subst hnext
      simp [Receiver.owed, ResequencingPoint.acks, hpoint]
    · simp [ResequencingBuffer.getNextPacket, Rs.DummySCTP.getNextPacket, hqueue, SafeQueue.tryPop] at hnext

section Ends

theorem Piped.sent_length_le (h : Piped packets s) : s.history.firstSent.length ≤ packets.length := by
  have hle := h.sent_outgoing.length_le
  rwa [outgoing_length] at hle

theorem Piped.handedOver_length_le (h : Piped packets s) : s.handedOver.length ≤ packets.length :=
  Nat.le_trans h.handedOver_sent.length_le h.sent_length_le

theorem Piped.none_in_flight (h : Piped packets s) (hall : packets.length ≤ s.handedOver.length) :
    s.dataChannel = [] ∧ InHand s.receiver.resequencingThread [] := by
  obtain ⟨flight, hrx, hdata⟩ := h.rx
  obtain ⟨hand, hpipe, hhand⟩ := hrx.pipe
  have hsent := congrArg List.length hpipe
  have hle := h.sent_length_le
  simp only [List.length_append] at hsent
  simp only [System.handedOver, List.length_append] at hall
  obtain rfl : flight = [] := List.eq_nil_of_length_eq_zero (by omega)
  obtain rfl : hand = [] := List.eq_nil_of_length_eq_zero (by omega)
  exact ⟨hdata, hhand⟩

theorem Piped.not_adding (h : Piped packets s) (hall : packets.length ≤ s.handedOver.length) (p : DataPacket) :
    s.receiver.resequencingThread ≠ .adding p := by
  intro hpoint
  obtain ⟨-, hhand⟩ := h.none_in_flight hall
  rw [hpoint] at hhand
  obtain ⟨q, hq, -⟩ := hhand
  cases hq

theorem Piped.not_received (h : Piped packets s) (hall : packets.length ≤ s.handedOver.length) (p : DataPacket) :
    s.receiver.resequencingThread ≠ .received p := by
  intro hpoint
  obtain ⟨-, hhand⟩ := h.none_in_flight hall
  rw [hpoint] at hhand
  obtain ⟨q, hq, -⟩ := hhand
  cases hq

variable (hp : Streamable packets)

include hp

theorem Streamable.length_pos : 0 < packets.length := List.length_pos_iff.mpr hp.nonempty

theorem Streamable.framed : ∀ p ∈ packets, p.Framed := fun p hmem => (hp.fills p hmem).1

theorem Piped.isEndOfTx_iff (h : Piped packets s) {i : ℕ} {q : DataPacket} (hq : s.history.firstSent[i]? = some q) :
    q.isEndOfTx = true ↔ i + 1 = packets.length := by
  obtain ⟨p₀, hp₀, rfl⟩ := h.sent_getElem? hq
  rw [numbered_isEndOfTx, (hp.framed p₀ (List.mem_of_getElem? hp₀)).isEndOfTx_iff, hp.ends i p₀ hp₀]

theorem Piped.end_eq (h : Piped packets s) (ha : EndNumber s.history.firstSent a) :
    a = lastNumber packets := by
  obtain ⟨i, q, hq, hend, rfl⟩ := ha
  rw [lastNumber, ← (h.isEndOfTx_iff hp hq).mp hend, Nat.add_sub_cancel]

theorem Piped.endOfTxSeqNum_eq (h : Piped packets s) (hall : packets.length ≤ s.history.firstSent.length) :
    s.transmitter.endOfTxSeqNum = some (lastNumber packets) := by
  have hpos := hp.length_pos
  obtain ⟨q, hq⟩ : ∃ q, s.history.firstSent[packets.length - 1]? = some q :=
    ⟨_, List.getElem?_eq_getElem (by omega)⟩
  have hend := (h.isEndOfTx_iff hp hq).mpr (by omega)
  obtain ⟨sn, hsn⟩ := Option.isSome_iff_exists.mp (h.tx.end_sent q (List.mem_of_getElem? hq) hend)
  rw [hsn, h.end_eq hp (h.tx.end_number sn hsn)]

end Ends

structure EndSeen (packets : List DataPacket) (s : System Rt.DummySCTP Rs.DummySCTP) : Prop where
  adding : ∀ p, s.receiver.resequencingThread = .adding p → p.isEndOfTx = true →
    s.receiver.endOfTxSn = some p.header.sequenceNumber
  handedOver : packets.length ≤ s.handedOver.length → s.receiver.endOfTxSn = some (lastNumber packets)

/-- The ACKs on their way to the transmit thread are those for the last packets that were handed over. -/
structure AcksPiped (packets : List DataPacket) (s : System Rt.DummySCTP Rs.DummySCTP) : Prop where
  pipe : ∃ c, c + s.acks.length = s.handedOver.length ∧ (∀ i a, s.acks[i]? = some a → a = UInt16.ofNat (c + i)) ∧
    (packets.length ≤ c → s.transmitter.endOfTxAcked = true)
  sent : ∀ a, s.receiver.ackThread = .sent a →
    ∃ i, i + 1 + s.receiver.owed.length = s.handedOver.length ∧ a = UInt16.ofNat i

structure RxEnds (packets : List DataPacket) (s : System Rt.DummySCTP Rs.DummySCTP) : Prop where
  acked : s.receiver.ackedEndOfTx = true → s.receiver.owed = []
  taken : packets.length ≤ s.handedOver.length → s.receiver.owed = [] →
    s.receiver.ackedEndOfTx = true ∨ s.receiver.ackThread = .sent (lastNumber packets)
  exited : s.receiver.resequencingThread = .exited ∨ s.receiver.ackThread = .exited → s.receiver.ackedEndOfTx = true
  waits : s.receiver.resequencingThread = .receiving → s.receiver.resequencingBuffer.shadowBuffer = []

theorem AcksPiped.of_same (ha : AcksPiped packets s) (hacks : s'.acks = s.acks)
    (hended : s'.transmitter.endOfTxAcked = s.transmitter.endOfTxAcked)
    (hhanded : s'.handedOver.length = s.handedOver.length) (howed : s'.receiver.owed = s.receiver.owed)
    (hsent : ∀ a, s'.receiver.ackThread = .sent a → s.receiver.ackThread = .sent a) : AcksPiped packets s' := by
  obtain ⟨c, hpipe⟩ := ha.pipe
  refine ⟨⟨c, ?_⟩, fun a hpoint => ?_⟩
  · rw [hacks, hended, hhanded]
    exact hpipe
  · rw [hhanded, howed]
    exact ha.sent a (hsent a hpoint)

theorem AcksPiped.of_popped (ha : AcksPiped packets s) {sn : SequenceNumber} (hacks : s.acks = sn :: s'.acks)
    (hhanded : s'.handedOver.length = s.handedOver.length) (hrx : s'.receiver = s.receiver)
    (hended : ∀ c, c + 1 ≤ s.handedOver.length → packets.length ≤ c + 1 → sn = UInt16.ofNat c →
      s'.transmitter.endOfTxAcked = true) : AcksPiped packets s' := by
  obtain ⟨c, hlength, hnumbers, -⟩ := ha.pipe
  rw [hacks] at hlength hnumbers
  rw [List.length_cons] at hlength
  refine ⟨⟨c + 1, by omega, fun i a hi => ?_, fun hle => hended c (by omega) hle (hnumbers 0 sn rfl)⟩, ?_⟩
  · rw [hnumbers (i + 1) a hi, Nat.add_right_comm, Nat.add_assoc]
  · rw [hrx, hhanded]
    exact ha.sent

theorem AcksPiped.of_added (ha : AcksPiped packets s) (hlt : s.handedOver.length < packets.length)
    (hacks : s'.acks = s.acks ++ [UInt16.ofNat s.handedOver.length])
    (hhanded : s'.handedOver.length = s.handedOver.length + 1)
    (howed : s'.receiver.owed.length = s.receiver.owed.length + 1)
    (hthread : s'.receiver.ackThread = s.receiver.ackThread) : AcksPiped packets s' := by
  obtain ⟨c, hlength, hnumbers, -⟩ := ha.pipe
  refine ⟨⟨c, ?_, fun i a hi => ?_, fun hle => by omega⟩, fun a hsent => ?_⟩
  · rw [hacks, List.length_append, List.length_singleton]
    omega
  · rw [hacks] at hi
    by_cases hold : i < s.acks.length
    · rw [List.getElem?_append_left hold] at hi
      exact hnumbers i a hi
    · rw [List.getElem?_append_right (by omega), List.getElem?_singleton] at hi
      split at hi
      next hlast =>
        rw [← Option.some.inj hi]
        congr 1
        omega
      next => cases hi
  · rw [hthread] at hsent
    obtain ⟨i, hi, heq⟩ := ha.sent a hsent
    exact ⟨i, by omega, heq⟩

theorem AcksPiped.sendsAcks (ha : AcksPiped packets s) {r : Receiver Rs.DummySCTP} {d : Option (List Byte)}
    (hr : s.receiver.SendsAcks r d) :
    AcksPiped packets { s with receiver := r, ackChannel := s.ackChannel ++ d.toList } := by
  obtain ⟨c, hlength, hnumbers, hended⟩ := ha.pipe
  have hacks : System.acks { s with receiver := r, ackChannel := s.ackChannel ++ d.toList } = s.acks := by
    rw [System.acks, System.acks, hr.owed, List.map_append]
    simp
  have hhanded : s.history.obAccepted ++ r.resequencingBuffer.shadowBuffer = s.handedOver := by
    cases hr <;> rfl
  refine ⟨⟨c, ?_⟩, fun a hsent => ?_⟩
  · rw [hacks, System.handedOver, hhanded]
    exact ⟨hlength, hnumbers, hended⟩
  · rw [System.handedOver, hhanded]
    obtain rfl := hr.sends hsent
    -- What was owed from this ACK on are the ACKs for the last packets.
    have howed := hr.owed
    have hlast : s.acks[s.acks.length - s.receiver.owed.length]? = some a := by
      rw [System.acks, List.length_append, Nat.add_sub_cancel, List.getElem?_append_right (Nat.le_refl _),
        Nat.sub_self, howed]
      simp
    have hle : s.receiver.owed.length ≤ s.acks.length := by
      rw [System.acks, List.length_append]
      exact Nat.le_add_left _ _
    have hmore : s.receiver.owed.length = 1 + r.owed.length := by
      rw [howed, List.length_append]
      rfl
    change ∃ i, i + 1 + r.owed.length = _ ∧ _
    exact ⟨_, by omega, hnumbers _ a hlast⟩

section Steps

variable (hp : Streamable packets) (h : Piped packets s)

include hp h

theorem Piped.endSeen_step (he : EndSeen packets s) (hs : s.step act = some s') : EndSeen packets s' := by
  cases System.step_steps hs with
  | @resequences now r accepted delivered hr =>
    obtain ⟨flight, hrx, -⟩ := h.rx
    rcases hrx.adds_or_same (h.fills hp.fills) h.number hr with
      ⟨p, q, hpoint, hcopy, rfl, hq, rfl⟩ | ⟨-, -, -, hsame⟩
    · refine ⟨by simp, fun hall => ?_⟩
      have hlast : s.handedOver.length + 1 = packets.length := by
        have hlt : s.handedOver.length < s.history.firstSent.length := (List.getElem?_eq_some_iff.mp hq).1
        have hle := h.sent_length_le
        simp only [System.handedOver, List.length_append, List.length_singleton, Option.toList_none,
          List.length_nil] at hall hlt ⊢
        omega
      have hend : p.isEndOfTx = true := by
        rw [DataPacket.isEndOfTx, hcopy.header_eq]
        exact (h.isEndOfTx_iff hp hq).mpr hlast
      rw [he.adding p hpoint hend, hcopy.header_eq, h.number _ q hq, lastNumber, ← hlast, Nat.add_sub_cancel]
      rfl
    · have hkept : packets.length ≤ s.handedOver.length → r.endOfTxSn = s.receiver.endOfTxSn := by
        intro hall
        cases hr with
        | received hpoint => exact absurd hpoint (h.not_received hall _)
        | _ => rfl
      refine ⟨fun p hadding hend => ?_, fun hall => ?_⟩
      · cases hr with
        | loop => cases hacked : s.receiver.ackedEndOfTx <;> simp [hacked] at hadding
        | received hpoint =>
          obtain rfl := ResequencingPoint.adding.inj hadding
          exact if_pos hend
        | @added p ack b => cases ack <;> cases hadding
        | delivered hpoint => cases hpoint.symm.trans hadding
        | _ => cases hadding
      · have hall' : packets.length ≤ s.handedOver.length := by
          rw [System.handedOver, ← hsame]
          exact hall
        exact (hkept hall').trans (he.handedOver hall')
  | rxReceives _ hr =>
    obtain ⟨-, point, rfl, hnext⟩ := Receiver.receivePacket_point hr
    refine ⟨fun p hadding => ?_, he.handedOver⟩
    rcases hnext with rfl | ⟨q, rfl⟩ | ⟨fault, rfl⟩ <;> cases hadding
  | rxTimesOut hr =>
    obtain rfl := Receiver.receivePacket_none hr
    exact ⟨by simp, he.handedOver⟩
  | sendsAcks hr => cases hr <;> exact ⟨he.adding, he.handedOver⟩
  | _ => exact ⟨he.adding, he.handedOver⟩

theorem Piped.acksPiped_transmits (ha : AcksPiped packets s) {now : Clock} {t : Transmitter Rt.DummySCTP}
    {d : Option (List Byte)} {p : Option DataPacket} (ht : s.transmitter.Transmits now t d p) :
    AcksPiped packets { s with
      transmitter := t
      dataChannel := s.dataChannel ++ d.toList
      history.firstSent := s.history.firstSent ++ p.toList } := by
  rcases ht.taken with ⟨htaken, hended⟩ | ⟨sn, htaken, hended⟩
  · exact ha.of_same (by rw [System.acks, System.acks, htaken]) hended rfl rfl (fun _ => id)
  · refine ha.of_popped (by rw [System.acks, htaken]; rfl) rfl rfl (fun c hc hall hsn => ?_)
    -- All packets have been handed over, and this is the ACK for the last one.
    have hle := h.handedOver_length_le
    have hsent := h.handedOver_sent.length_le
    refine hended.resolve_right (not_not.mpr ?_)
    rw [h.endOfTxSeqNum_eq hp (by omega), hsn, lastNumber]
    congr 2
    omega

theorem Piped.acksPiped_resequences (ha : AcksPiped packets s) {now : Clock} {r : Receiver Rs.DummySCTP}
    {accepted delivered : Option DataPacket} (hr : s.receiver.Resequences now r accepted delivered) :
    AcksPiped packets { s with
      receiver := r
      history.rsAccepted := s.history.rsAccepted ++ accepted.toList
      history.obAccepted := s.history.obAccepted ++ delivered.toList } := by
  obtain ⟨flight, hrx, -⟩ := h.rx
  rcases hrx.adds_or_same (h.fills hp.fills) h.number hr with
    ⟨p, q, hpoint, -, rfl, hq, rfl⟩ | ⟨howed, hthread, -, hsame⟩
  · have hlt : s.handedOver.length < packets.length :=
      Nat.lt_of_lt_of_le (List.getElem?_eq_some_iff.mp hq).1 h.sent_length_le
    have hnumber : q.header.sequenceNumber = UInt16.ofNat s.handedOver.length := h.number _ q hq
    refine ha.of_added hlt ?_ ?_ ?_ rfl
    · simp [System.acks, Receiver.owed, ResequencingPoint.acks, hpoint, hnumber]
    · simp [System.handedOver, Nat.add_assoc]
    · simp [Receiver.owed, ResequencingPoint.acks, hpoint, Nat.add_assoc]
  · exact ha.of_same (by rw [System.acks, System.acks, howed]) rfl (congrArg List.length hsame) howed
      (fun a hsent => hthread ▸ hsent)

theorem Piped.acksPiped_step (ha : AcksPiped packets s) (hact : act.isReliable = true) (hs : s.step act = some s') :
    AcksPiped packets s' := by
  cases System.step_steps hs with
  | transmits ht => exact h.acksPiped_transmits hp ha ht
  | takesAcks ht =>
    refine ha.of_same (by rw [System.acks, System.acks, ht.taken]) ?_ rfl rfl (fun _ => id)
    cases ht <;> rfl
  | @txReceives i recvBuffer d t hd ht =>
    obtain rfl : i = 0 := eq_of_beq hact
    obtain ⟨a, rfl⟩ := h.channel d (List.mem_of_getElem? hd)
    obtain ⟨hpoint, -⟩ := Transmitter.receiveAck_point ht
    obtain rfl := Transmitter.receiveAck_htons a recvBuffer ht
    obtain ⟨rest, hrest⟩ : ∃ rest, s.ackChannel = htons a :: rest := by
      cases hchannel : s.ackChannel with
      | nil => simp [hchannel] at hd
      | cons b rest => exact ⟨rest, by simpa [hchannel] using hd⟩
    refine ha.of_same ?_ rfl rfl rfl (fun _ => id)
    simp [System.acks, Transmitter.taken, TxAckPoint.acks, hpoint, hrest]
  | txTimesOut ht =>
    obtain ⟨hpoint, -⟩ := Transmitter.receiveAck_point ht
    obtain rfl := Transmitter.receiveAck_none ht
    refine ha.of_same ?_ rfl rfl rfl (fun _ => id)
    simp [System.acks, Transmitter.taken, TxAckPoint.acks, hpoint]
  | resequences hr => exact h.acksPiped_resequences hp ha hr
  | rxReceives _ hr =>
    have howed := Receiver.owed_of_receivePacket hr
    obtain ⟨-, point, rfl, -⟩ := Receiver.receivePacket_point hr
    exact ha.of_same (by rw [System.acks, System.acks, howed]) rfl rfl howed (fun _ => id)
  | rxTimesOut hr =>
    have howed := Receiver.owed_of_receivePacket hr
    obtain ⟨-, point, rfl, -⟩ := Receiver.receivePacket_point hr
    exact ha.of_same (by rw [System.acks, System.acks, howed]) rfl rfl howed (fun _ => id)
  | sendsAcks hr => exact ha.sendsAcks hr
  | dropData => cases hact
  | duplicateData => cases hact
  | dropAck => cases hact
  | duplicateAck => cases hact
  | _ => exact ⟨ha.pipe, ha.sent⟩

theorem Piped.last_sent (ha : AcksPiped packets s) (hsent : s.receiver.ackThread = .sent a) :
    a = lastNumber packets ↔ s.receiver.owed = [] ∧ packets.length ≤ s.handedOver.length := by
  obtain ⟨i, hi, rfl⟩ := ha.sent a hsent
  have hle := h.handedOver_length_le
  have hpos := hp.length_pos
  have hshort := hp.short
  rw [← List.length_eq_zero_iff, lastNumber, ← UInt16.toNat_inj, toNat_ofNat_of_lt (by omega),
    toNat_ofNat_of_lt (by omega)]
  omega

theorem Piped.rxEnds_resequences (hc : AckedInOrder packets s) (he : RxEnds packets s) {now : Clock}
    {r : Receiver Rs.DummySCTP} {accepted delivered : Option DataPacket}
    (hr : s.receiver.Resequences now r accepted delivered) :
    RxEnds packets { s with
      receiver := r
      history.rsAccepted := s.history.rsAccepted ++ accepted.toList
      history.obAccepted := s.history.obAccepted ++ delivered.toList } := by
  obtain ⟨flight, hrx, -⟩ := h.rx
  rcases hrx.adds_or_same (h.fills hp.fills) h.number hr with
    ⟨p, q, hpoint, -, rfl, -, rfl⟩ | ⟨howed, hthread, hacked, hsame⟩
  · refine ⟨fun hended => ?_, fun _ hnone => ?_, fun hexited => ?_, by simp⟩
    · exact absurd hpoint (h.not_adding (hc.complete (.inr hended)) p)
    · simp [Receiver.owed, ResequencingPoint.acks] at hnone
    · exact he.exited (.inr (hexited.resolve_left (by simp)))
  · refine ⟨fun hended => ?_, fun hall hnone => ?_, fun hexited => ?_, fun hwaiting => ?_⟩
    · exact howed.trans (he.acked (hacked.symm.trans hended))
    · have hall' : packets.length ≤ s.handedOver.length := by
        rw [System.handedOver, ← hsame]
        exact hall
      change r.ackedEndOfTx = true ∨ r.ackThread = _
      rw [hacked, hthread]
      exact he.taken hall' (howed.symm.trans hnone)
    · change r.ackedEndOfTx = true
      rw [hacked]
      rcases hexited with hexited | hexited
      · exact hr.exits hexited
      · exact he.exited (.inr (hthread.symm.trans hexited))
    · obtain ⟨hloop, hbuffer⟩ := hr.waits hwaiting
      change r.resequencingBuffer.shadowBuffer = []
      rw [hbuffer]
      exact hrx.drained (.inl hloop)

theorem Piped.rxEnds_sendsAcks (hseen : EndSeen packets s) (ha : AcksPiped packets s) (he : RxEnds packets s)
    {r : Receiver Rs.DummySCTP} {d : Option (List Byte)} (hr : s.receiver.SendsAcks r d)
    (h' : Piped packets { s with receiver := r, ackChannel := s.ackChannel ++ d.toList }) :
    RxEnds packets { s with receiver := r, ackChannel := s.ackChannel ++ d.toList } := by
  have howed := hr.owed
  have hnone : s.receiver.owed = [] → r.owed = [] := by
    intro hnone
    rw [hnone] at howed
    exact (List.append_eq_nil_iff.mp howed.symm).2
  have ha' := ha.sendsAcks hr
  cases hr with
  | loop hpoint =>
    refine ⟨fun hended => hnone (he.acked hended), fun hall hrest => ?_, fun hexited => ?_, he.waits⟩
    · rcases he.taken hall (howed.trans hrest) with hended | hsent
      · exact .inl hended
      · cases hpoint.symm.trans hsent
    · rcases hexited with hexited | hexited
      · exact he.exited (.inl hexited)
      · change s.receiver.ackedEndOfTx = true
        cases hended : s.receiver.ackedEndOfTx with
        | true => rfl
        | false => simp [hended] at hexited
  | popped hpoint =>
    refine ⟨fun hended => hnone (he.acked hended), fun hall hrest => ?_, fun hexited => ?_, he.waits⟩
    · cases hrest
    · exact he.exited (.inl (hexited.resolve_right (by simp)))
  | idle hpoint =>
    refine ⟨fun hended => hnone (he.acked hended), fun hall hrest => ?_, fun hexited => ?_, he.waits⟩
    · rcases he.taken hall (howed.trans hrest) with hended | hsent
      · exact .inl hended
      · cases hpoint.symm.trans hsent
    · exact he.exited (.inl (hexited.resolve_right (by simp)))
  | @sending a hpoint =>
    refine ⟨fun hended => hnone (he.acked hended), fun hall hrest => .inr ?_, fun hexited => ?_, he.waits⟩
    · exact congrArg RxAckPoint.sent ((h'.last_sent hp ha' rfl).mpr ⟨hrest, hall⟩)
    · exact he.exited (.inl (hexited.resolve_right (by simp)))
  | @sent a hpoint =>
    refine ⟨fun hended => ?_, fun hall hrest => .inl ?_, fun hexited => ?_, he.waits⟩
    · rcases Bool.or_eq_true_iff.mp hended with hold | hnew
      · exact hnone (he.acked hold)
      · have hlast := h.end_eq hp (h.end_number a (beq_iff_eq.mp hnew))
        exact hnone ((h.last_sent hp ha hpoint).mp hlast).1
    · change (s.receiver.ackedEndOfTx || s.receiver.endOfTxSn == some a) = true
      rcases he.taken hall (howed.trans hrest) with hended | hsent
      · rw [hended, Bool.true_or]
      · obtain rfl := RxAckPoint.sent.inj (hpoint.symm.trans hsent)
        rw [hseen.handedOver hall, beq_self_eq_true, Bool.or_true]
    · change (s.receiver.ackedEndOfTx || s.receiver.endOfTxSn == some a) = true
      rw [he.exited (.inl (hexited.resolve_right (by simp))), Bool.true_or]

theorem Piped.rxEnds_step (hc : AckedInOrder packets s) (hseen : EndSeen packets s) (ha : AcksPiped packets s)
    (he : RxEnds packets s) (hs : s.step act = some s') (h' : Piped packets s') : RxEnds packets s' := by
  have hpoint : ∀ {received : Option (ℕ × ReceiveBuffer)} {r : Receiver Rs.DummySCTP} (data : List (List Byte)),
      s.receiver.receivePacket received = some r →
      RxEnds packets { s with receiver := r, dataChannel := data } := by
    intro received r data hr
    have howed := Receiver.owed_of_receivePacket hr
    obtain ⟨-, point, rfl, hnext⟩ := Receiver.receivePacket_point hr
    refine ⟨fun hended => howed.trans (he.acked hended), fun hall hnone => he.taken hall (howed.symm.trans hnone),
      fun hexited => he.exited (hexited.imp_left fun hpoint => ?_), fun hwaiting => ?_⟩
    · obtain rfl : point = .exited := hpoint
      rcases hnext with hnext | ⟨p, hnext⟩ | ⟨fault, hnext⟩ <;> cases hnext
    · obtain rfl : point = .receiving := hwaiting
      rcases hnext with hnext | ⟨p, hnext⟩ | ⟨fault, hnext⟩ <;> cases hnext
  cases System.step_steps hs with
  | resequences hr => exact h.rxEnds_resequences hp hc he hr
  | rxReceives _ hr => exact hpoint _ hr
  | rxTimesOut hr => exact hpoint _ hr
  | sendsAcks hr => exact h.rxEnds_sendsAcks hp hseen ha he hr h'
  | _ => exact ⟨he.acked, he.taken, he.exited, he.waits⟩

end Steps

structure Streaming (packets : List DataPacket) (s : System Rt.DummySCTP Rs.DummySCTP) : Prop where
  piped : Piped packets s
  acked : AckedInOrder packets s
  runs : RunsUntilAcked s.transmitter
  seen : EndSeen packets s
  acks : AcksPiped packets s
  ends : RxEnds packets s

theorem Streaming.step (hp : Streamable packets) (h : Streaming packets s) (hact : act.isReliable = true)
    (hs : s.step act = some s') : Streaming packets s' := by
  have h' := h.piped.step hp.fills hact hs
  exact {
    piped := h'
    acked := h.acked.step h.piped hp.fills hp.short hp.ends hact hs
    runs := h.runs.step (.of_step hs)
    seen := h.piped.endSeen_step hp h.seen hs
    acks := h.piped.acksPiped_step hp h.acks hact hs
    ends := h.piped.rxEnds_step hp h.acked h.seen h.acks h.ends hs h' }

theorem streaming_new (hp : Streamable packets) :
    Streaming packets (System.new packets .new (.new firstSequenceNumber)) where
  piped := piped_new packets
  acked := ackedInOrder_new packets
  runs := ⟨nofun, nofun⟩
  seen := ⟨nofun, fun hall => absurd hall (Nat.not_le_of_gt hp.length_pos)⟩
  acks := by
    refine ⟨⟨0, rfl, nofun, fun hall => ?_⟩, nofun⟩
    exact absurd hall (Nat.not_le_of_gt hp.length_pos)
  ends := by
    refine ⟨fun _ => rfl, fun hall => ?_, ?_, fun _ => rfl⟩
    · exact absurd hall (Nat.not_le_of_gt hp.length_pos)
    · rintro (hexited | hexited) <;> cases hexited

end ArqBenchmark
