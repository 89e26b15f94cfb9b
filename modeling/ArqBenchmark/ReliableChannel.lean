import ArqBenchmark.DummySCTP
import ArqBenchmark.TerminationAgreement

namespace ArqBenchmark

open DataPacket DataPacketHeader

namespace Rt

structure DummySCTP where
  timeoutInterval : ℤ
deriving DecidableEq, Repr

namespace DummySCTP

def new : DummySCTP := ⟨0⟩

def addPacket (b : DummySCTP) (_packet : TransmitBufferObject) : DummySCTP := b

def tryGetPacketSpan (b : DummySCTP) (_now : Clock) : Option (List Byte) × DummySCTP := (none, b)

def readyForNewPacket (_b : DummySCTP) : Bool := true

def packetsPending (_b : DummySCTP) : Bool := false

def acknowledgePacket (b : DummySCTP) (_seqNum : SequenceNumber) : DummySCTP := b

end DummySCTP

instance : RetransmissionBuffer DummySCTP where
  addPacket b packet := .ok (b.addPacket packet)
  tryGetPacketSpan b now := .ok (b.tryGetPacketSpan now)
  readyForNewPacket := DummySCTP.readyForNewPacket
  packetsPending := DummySCTP.packetsPending
  acknowledgePacket b seqNum := .ok (b.acknowledgePacket seqNum)

instance : LawfulRetransmission DummySCTP where
  capacity _ := 0
  Holds _ _ := True
  Aligned _ _ _ := False
  addPacket {b _} _ _ _ := ⟨b, rfl, trivial⟩
  tryGetPacketSpan {b q} _ _ := ⟨none, b, q, rfl, trivial, rfl, fun _ hb => by cases hb⟩
  acknowledgePacket {b _} _ _ := ⟨b, 0, rfl, trivial⟩
  aligned_length h := h.elim
  aligned_sequence h := h.elim
  aligned_addPacket h := h.elim
  aligned_tryGetPacketSpan h := h.elim
  aligned_acknowledgePacket h := h.elim

end Rt

/-- The length of the launcher's packets, or none for the end of the transmission. -/
def DataPacket.FillsPayload (p : DataPacket) : Prop := p.header.length = 0 ∨ p.header.length = packetPayloadLength

namespace Rs.DummySCTP

variable {b : DummySCTP} {p q : DataPacket}

theorem storedHeader_copy (hq : q.Framed) (hcopy : p.IsCopy q) : storedHeader p = q.header := by
  obtain ⟨rest, hrest⟩ := hcopy.bytes
  rw [storedHeader, DataPacket.getReadSpan, ← hrest, hq.packed, List.append_assoc, ofBytes_packed]

theorem trimmedLength_copy (hq : q.Framed) (hfills : q.FillsPayload) (hcopy : p.IsCopy q) :
    trimmedLength p = q.data.length := by
  rw [hq.data_length, ← storedHeader_copy hq hcopy]
  apply (Delivering.trimmedLength_eq_iff p).mpr
  rw [storedHeader_copy hq hcopy]
  exact hfills

theorem addPacket_copy (hq : q.Framed) (hfills : q.FillsPayload) (hcopy : p.IsCopy q)
    (hsn : q.header.sequenceNumber = b.nextSequenceNumber) :
    b.addPacket p = .ok (some q.header.sequenceNumber, ⟨b.shadowBuffer ++ [q], b.nextSequenceNumber + 1⟩) := by
  have hheader := storedHeader_copy hq hcopy
  have hlength := trimmedLength_copy hq hfills hcopy
  obtain ⟨rest, hrest⟩ := hcopy.bytes
  have htrimmed : trimmed p = q := by
    rw [trimmed, hheader, hlength, DataPacket.getReadSpan, ← hrest, List.take_left]
  have hinside : trimmedLength p ≤ p.getReadSpan.length := by
    rw [hlength, DataPacket.getReadSpan, ← hrest, List.length_append]
    exact Nat.le_add_right _ _
  rw [addPacket_trims hinside, hheader, if_neg (not_not.mpr hsn), htrimmed]

end Rs.DummySCTP

/-- The channel neither loses nor copies a datagram and keeps them in order. -/
def Action.isReliable : Action → Bool
  | .txReceive i _ => i == 0
  | .rxReceive i _ => i == 0
  | .dropData _ => false
  | .duplicateData _ => false
  | .dropAck _ => false
  | .duplicateAck _ => false
  | _ => true

def InHand : ResequencingPoint → List DataPacket → Prop
  | .received p, hand => ∃ q, hand = [q] ∧ p.IsCopy q
  | .adding p, hand => ∃ q, hand = [q] ∧ p.IsCopy q
  | _, hand => hand = []

structure RxPiped (sent delivered flight : List DataPacket) (r : Receiver Rs.DummySCTP) : Prop where
  pipe : ∃ hand, sent = delivered ++ r.resequencingBuffer.shadowBuffer ++ hand ++ flight ∧
    InHand r.resequencingThread hand
  expected : r.resequencingBuffer.nextSequenceNumber =
    UInt16.ofNat (delivered.length + r.resequencingBuffer.shadowBuffer.length)
  output : r.outputBuffer.nextSequenceNumber = UInt16.ofNat delivered.length
  drained : r.resequencingThread = .loop ∨ r.resequencingThread = .exited →
    r.resequencingBuffer.shadowBuffer = []
  running : ∀ fault, r.resequencingThread ≠ .terminated fault

section Receiving

variable {sent delivered flight : List DataPacket} {r r' : Receiver Rs.DummySCTP} {now : Clock}
  {accepted output : Option DataPacket}

theorem ofNat_succ (n : ℕ) : UInt16.ofNat n + 1 = UInt16.ofNat (n + 1) := (UInt16.ofNat_add n 1).symm

theorem RxPiped.added (h : RxPiped sent delivered flight r) (hf : ∀ q ∈ sent, q.Framed ∧ q.FillsPayload)
    (hnumber : ∀ i q, sent[i]? = some q → q.header.sequenceNumber = UInt16.ofNat i) {p : DataPacket}
    (hpoint : r.resequencingThread = .adding p) :
    ∃ q, r.resequencingBuffer.addPacket p = .ok (some q.header.sequenceNumber,
      ⟨r.resequencingBuffer.shadowBuffer ++ [q], r.resequencingBuffer.nextSequenceNumber + 1⟩) ∧
      sent = delivered ++ (r.resequencingBuffer.shadowBuffer ++ [q]) ++ flight := by
  obtain ⟨hand, hpipe, hhand⟩ := h.pipe
  rw [hpoint] at hhand
  obtain ⟨q, rfl, hcopy⟩ := hhand
  have hq : sent[delivered.length + r.resequencingBuffer.shadowBuffer.length]? = some q := by
    rw [hpipe, ← List.length_append]
    simp
  obtain ⟨hframed, hfills⟩ := hf q (List.mem_of_getElem? hq)
  refine ⟨q, Rs.DummySCTP.addPacket_copy hframed hfills hcopy ?_, by simp [hpipe]⟩
  rw [h.expected, hnumber _ q hq]

theorem RxPiped.delivers (h : RxPiped sent delivered flight r)
    (hnumber : ∀ i q, sent[i]? = some q → q.header.sequenceNumber = UInt16.ofNat i) {q : DataPacket}
    {queue : SafeQueue DataPacket} (hqueue : r.resequencingBuffer.shadowBuffer = q :: queue) :
    q.header.sequenceNumber = r.outputBuffer.nextSequenceNumber := by
  obtain ⟨hand, hpipe, -⟩ := h.pipe
  rw [h.output]
  apply hnumber
  rw [hpipe, hqueue]
  simp

theorem RxPiped.resequences (h : RxPiped sent delivered flight r) (hf : ∀ q ∈ sent, q.Framed ∧ q.FillsPayload)
    (hnumber : ∀ i q, sent[i]? = some q → q.header.sequenceNumber = UInt16.ofNat i)
    (hr : r.Resequences now r' accepted output) : RxPiped sent (delivered ++ output.toList) flight r' := by
  cases hr with
  | loop hpoint =>
    obtain ⟨hand, hpipe, hhand⟩ := h.pipe
    rw [hpoint] at hhand
    have hempty := h.drained (.inl hpoint)
    rw [Option.toList_none, List.append_nil]
    refine ⟨⟨hand, hpipe, ?_⟩, h.expected, h.output, fun _ => hempty, fun fault => ?_⟩
    · cases hacked : r.ackedEndOfTx <;> exact hhand
    · cases hacked : r.ackedEndOfTx <;> simp
  | received hpoint =>
    obtain ⟨hand, hpipe, hhand⟩ := h.pipe
    rw [hpoint] at hhand
    rw [Option.toList_none, List.append_nil]
    exact ⟨⟨hand, hpipe, hhand⟩, h.expected, h.output, by simp, by simp⟩
  | @added p ack b hpoint hadd =>
    obtain ⟨q, hadd', hpipe⟩ := h.added hf hnumber hpoint
    obtain ⟨rfl, rfl⟩ := Prod.mk.inj (Except.ok.inj (hadd.symm.trans hadd'))
    rw [Option.toList_none, List.append_nil]
    refine ⟨⟨[], by simpa using hpipe, rfl⟩, ?_, h.output, by simp, by simp⟩
    rw [h.expected, ofNat_succ, List.length_append, List.length_singleton, Nat.add_assoc]
  | faulted hpoint hadd =>
    obtain ⟨q, hadd', -⟩ := h.added hf hnumber hpoint
    cases hadd.symm.trans hadd'
  | pushed hpoint =>
    obtain ⟨hand, hpipe, hhand⟩ := h.pipe
    rw [hpoint] at hhand
    rw [Option.toList_none, List.append_nil]
    exact ⟨⟨hand, hpipe, hhand⟩, h.expected, h.output, by simp, by simp⟩
  | @delivered p b hpoint hnext =>
    obtain ⟨hand, hpipe, hhand⟩ := h.pipe
    have hexpected := h.expected
    rcases hqueue : r.resequencingBuffer.shadowBuffer with _ | ⟨q, queue⟩
    · simp [ResequencingBuffer.getNextPacket, Rs.DummySCTP.getNextPacket, hqueue, SafeQueue.tryPop] at hnext
    · simp only [ResequencingBuffer.getNextPacket, Rs.DummySCTP.getNextPacket, hqueue, SafeQueue.tryPop,
        Prod.mk.injEq, Option.some.injEq] at hnext
      obtain ⟨rfl, rfl⟩ := hnext
      rw [OutputBuffer.addPacket_expected now (h.delivers hnumber hqueue)]
      rw [hqueue] at hpipe hexpected
      refine ⟨⟨hand, by simpa using hpipe, hhand⟩, ?_, ?_, by simp [hpoint], h.running⟩
      · rw [hexpected]
        simp [Nat.add_comm, Nat.add_left_comm]
      · rw [h.output, ofNat_succ]
        simp
  | @drained b hpoint hnext =>
    obtain ⟨hand, hpipe, hhand⟩ := h.pipe
    rw [hpoint] at hhand
    rcases hqueue : r.resequencingBuffer.shadowBuffer with _ | ⟨q, queue⟩
    · simp only [ResequencingBuffer.getNextPacket, Rs.DummySCTP.getNextPacket, hqueue, SafeQueue.tryPop,
        Prod.mk.injEq, true_and] at hnext
      subst hnext
      rw [hqueue] at hpipe
      have hexpected := h.expected
      rw [hqueue] at hexpected
      rw [Option.toList_none, List.append_nil]
      exact ⟨⟨hand, hpipe, hhand⟩, hexpected, h.output, fun _ => rfl, by simp⟩
    · simp [ResequencingBuffer.getNextPacket, Rs.DummySCTP.getNextPacket, hqueue, SafeQueue.tryPop] at hnext

theorem RxPiped.point (h : RxPiped sent delivered flight r) (hhand : ∀ hand, InHand r.resequencingThread hand →
    hand = []) : RxPiped sent delivered flight { r with resequencingThread := .delivering } := by
  obtain ⟨hand, hpipe, hin⟩ := h.pipe
  exact ⟨⟨hand, hpipe, hhand hand hin⟩, h.expected, h.output, by simp, by simp⟩

theorem RxPiped.receives {q : DataPacket} {recvBuffer : ReceiveBuffer} (hq : q.Framed)
    (h : RxPiped sent delivered (q :: flight) r)
    (hr : r.receivePacket (some (receiveInto q.data recvBuffer)) = some r') :
    RxPiped sent delivered flight r' := by
  obtain ⟨hpoint, -⟩ := Receiver.receivePacket_point hr
  obtain ⟨p, hcopy, rfl⟩ := Receiver.receivePacket_copy hq recvBuffer hr
  obtain ⟨hand, hpipe, hhand⟩ := h.pipe
  rw [hpoint] at hhand
  obtain rfl : hand = [] := hhand
  exact ⟨⟨[q], by simpa using hpipe, q, rfl, hcopy⟩, h.expected, h.output, by simp, by simp⟩

end Receiving

namespace System

section Acks

variable {B R : Type} {s s' : System B R} {act : Action} {a : SequenceNumber}

theorem hasAck_of_txReceives (hchannel : ∀ d ∈ s.ackChannel, ∃ a, d = htons a) {i : ℕ}
    {recvBuffer : ReceiveBuffer} {d : List Byte} {t : Transmitter B} (hd : s.ackChannel[i]? = some d)
    (ht : s.transmitter.receiveAck (some (receiveInto d recvBuffer)) = some t)
    (ha : ({ s with transmitter := t, ackChannel := s.ackChannel.eraseIdx i } : System B R).HasAck a) :
    s.HasAck a := by
  have hmem := List.mem_of_getElem? hd
  obtain ⟨b, rfl⟩ := hchannel d hmem
  obtain rfl := Transmitter.receiveAck_htons b recvBuffer ht
  rcases ha with ha | ha | ha | ha
  · exact .inl ha
  · obtain ⟨d, hd, rfl⟩ := List.mem_map.mp ha
    exact .inr (.inl (List.mem_map_of_mem (List.mem_of_mem_eraseIdx hd)))
  · obtain rfl : b = a := by simpa using ha
    refine .inr (.inl (List.mem_map.mpr ⟨_, hmem, ?_⟩))
    rw [← List.append_nil (htons b), ntohs_htons]
  · exact .inr (.inr (.inr ha))

variable [RetransmissionBuffer B] [ResequencingBuffer R]

theorem hasAck_of_reliable (hchannel : ∀ d ∈ s.ackChannel, ∃ a, d = htons a) (hact : act.isReliable = true)
    (hs : s.step act = some s') (ha : s'.HasAck a) :
    s.HasAck a ∨ ∃ p b, s.receiver.resequencingThread = .adding p ∧
      ResequencingBuffer.addPacket s.receiver.resequencingBuffer p = .ok (some a, b) ∧
      s'.receiver.resequencingBuffer = b := by
  cases step_steps hs with
  | transmits ht => exact .inl (ha.imp_right (Or.imp_right (.of_transmits ht)))
  | takesAcks ht => exact .inl (ha.imp_right (Or.imp_right (.of_takesAcks ht)))
  | txReceives hd ht => exact .inl (hasAck_of_txReceives hchannel hd ht ha)
  | txTimesOut ht =>
    obtain rfl := Transmitter.receiveAck_none ht
    refine .inl (ha.imp_right (Or.imp_right ?_))
    rintro (hpushing | hqueued)
    · cases hpushing
    · exact .inr hqueued
  | resequences hr =>
    rcases ha with ha | ha
    · exact (Receiver.HasAck.of_resequences hr ha).imp_left .inl
    · exact .inl (.inr ha)
  | rxReceives _ hr => exact .inl (ha.imp_left (.of_receivePacket hr))
  | rxTimesOut hr => exact .inl (ha.imp_left (.of_receivePacket hr))
  | sendsAcks hr =>
    have hsent := Receiver.HasAck.of_sendsAcks hr (a := a)
    rcases ha with ha | ha | ha
    · exact .inl (.inl (hsent (.inl ha)))
    · rw [List.map_append] at ha
      rcases List.mem_append.mp ha with ha | ha
      · exact .inl (.inr (.inl ha))
      · exact .inl (.inl (hsent (.inr ha)))
    · exact .inl (.inr (.inr ha))
  | dropAck => cases hact
  | duplicateAck => cases hact
  | _ => exact .inl ha

end Acks

def handedOver (s : System Rt.DummySCTP Rs.DummySCTP) : List DataPacket :=
  s.history.obAccepted ++ s.receiver.resequencingBuffer.shadowBuffer

end System

theorem Transmitter.Transmits.transmitsOnce {t t' : Transmitter Rt.DummySCTP} {now : Clock} {d : Option (List Byte)}
    {p : Option DataPacket} (ht : t.Transmits now t' d p) : d = p.map DataPacket.getReadSpan := by
  cases ht with
  | retransmitted _ htry => simp [RetransmissionBuffer.tryGetPacketSpan, Rt.DummySCTP.tryGetPacketSpan] at htry
  | _ => rfl

structure Piped (packets : List DataPacket) (s : System Rt.DummySCTP Rs.DummySCTP) : Prop where
  submitted : s.history.submitted ++ s.toSubmit = packets
  tx : TxCarried s.history.submitted s.history.firstSent s.transmitter
  rx : ∃ flight, RxPiped s.history.firstSent s.history.obAccepted flight s.receiver ∧
    s.dataChannel = flight.map DataPacket.getReadSpan
  end_number : ∀ sn ∈ s.receiver.endOfTxSn, EndNumber s.history.firstSent sn
  channel : ∀ d ∈ s.ackChannel, ∃ a, d = htons a

section Runs

variable {packets : List DataPacket} {s s' : System Rt.DummySCTP Rs.DummySCTP} {act : Action} {a : SequenceNumber}

theorem Piped.sent_getElem? (h : Piped packets s) {i : ℕ} {q : DataPacket}
    (hq : s.history.firstSent[i]? = some q) : ∃ p₀, packets[i]? = some p₀ ∧ q = numbered i p₀ := by
  obtain ⟨p₀, hp₀, heq⟩ := h.tx.sent_getElem? hq
  have hi : i < s.history.submitted.length := (List.getElem?_eq_some_iff.mp hp₀).1
  exact ⟨p₀, by rw [← h.submitted, List.getElem?_append_left hi, hp₀], heq⟩

theorem Piped.number (h : Piped packets s) (i : ℕ) (q : DataPacket) (hq : s.history.firstSent[i]? = some q) :
    q.header.sequenceNumber = UInt16.ofNat i := by
  obtain ⟨p₀, -, rfl⟩ := h.sent_getElem? hq
  rfl

theorem Piped.fills (h : Piped packets s) (hp : ∀ p ∈ packets, p.Framed ∧ p.FillsPayload) :
    ∀ q ∈ s.history.firstSent, q.Framed ∧ q.FillsPayload := by
  intro q hq
  obtain ⟨i, hi⟩ := List.getElem?_of_mem hq
  obtain ⟨p₀, hp₀, rfl⟩ := h.sent_getElem? hi
  have hmem := List.mem_of_getElem? hp₀
  exact ⟨(hp p₀ hmem).1.withHeader rfl, (hp p₀ hmem).2⟩

theorem RxPiped.transmits {sent delivered flight : List DataPacket} {r : Receiver Rs.DummySCTP}
    (h : RxPiped sent delivered flight r) (more : List DataPacket) :
    RxPiped (sent ++ more) delivered (flight ++ more) r := by
  obtain ⟨hand, hpipe, hhand⟩ := h.pipe
  exact ⟨⟨hand, by simp [hpipe], hhand⟩, h.expected, h.output, h.drained, h.running⟩

theorem Piped.transmits (h : Piped packets s) {now : Clock} {t : Transmitter Rt.DummySCTP}
    {d : Option (List Byte)} {p : Option DataPacket} (ht : s.transmitter.Transmits now t d p) :
    Piped packets { s with
      transmitter := t
      dataChannel := s.dataChannel ++ d.toList
      history.firstSent := s.history.firstSent ++ p.toList } := by
  obtain ⟨flight, hrx, hdata⟩ := h.rx
  refine ⟨h.submitted, (h.tx.transmits ht).1, ⟨flight ++ p.toList, hrx.transmits _, ?_⟩,
    fun sn hsn => (h.end_number sn hsn).mono, h.channel⟩
  rw [hdata, ht.transmitsOnce]
  cases p <;> simp

theorem Piped.resequences (h : Piped packets s) (hp : ∀ p ∈ packets, p.Framed ∧ p.FillsPayload) {now : Clock}
    {r : Receiver Rs.DummySCTP} {accepted delivered : Option DataPacket}
    (hr : s.receiver.Resequences now r accepted delivered) :
    Piped packets { s with
      receiver := r
      history.rsAccepted := s.history.rsAccepted ++ accepted.toList
      history.obAccepted := s.history.obAccepted ++ delivered.toList } := by
  obtain ⟨flight, hrx, hdata⟩ := h.rx
  refine ⟨h.submitted, h.tx, ⟨flight, hrx.resequences (h.fills hp) h.number hr, hdata⟩, ?_, h.channel⟩
  intro sn hsn
  cases hr with
  | @received p hpoint =>
    by_cases hend : p.isEndOfTx = true
    · obtain ⟨hand, hpipe, hhand⟩ := hrx.pipe
      rw [hpoint] at hhand
      obtain ⟨q, rfl, hcopy⟩ := hhand
      have hq : q ∈ s.history.firstSent := by simp [hpipe]
      obtain ⟨i, hi⟩ := List.getElem?_of_mem hq
      have hnumber := h.number i q hi
      rw [← hcopy.header_eq] at hnumber
      refine ⟨i, q, hi, ?_, ?_⟩
      · rwa [DataPacket.isEndOfTx, ← hcopy.header_eq]
      · simp only [hend, ↓reduceIte, Option.mem_def, Option.some.injEq] at hsn
        rw [← hsn]
        exact hnumber
    · simp only [hend, Bool.false_eq_true, ↓reduceIte] at hsn
      exact h.end_number sn hsn
  | _ => exact h.end_number sn hsn

theorem Piped.receives (h : Piped packets s) (hp : ∀ p ∈ packets, p.Framed ∧ p.FillsPayload)
    {recvBuffer : ReceiveBuffer} {d : List Byte} {r : Receiver Rs.DummySCTP} (hd : s.dataChannel[0]? = some d)
    (hr : s.receiver.receivePacket (some (receiveInto d recvBuffer)) = some r) :
    Piped packets { s with receiver := r, dataChannel := s.dataChannel.eraseIdx 0 } := by
  obtain ⟨flight, hrx, hdata⟩ := h.rx
  rcases flight with _ | ⟨q, flight⟩
  · simp [hdata] at hd
  · obtain rfl : q.data = d := by simpa [hdata, DataPacket.getReadSpan] using hd
    obtain ⟨hand, hpipe, -⟩ := hrx.pipe
    have hq := h.fills hp q (by simp [hpipe])
    obtain ⟨-, point, heq, -⟩ := Receiver.receivePacket_point hr
    refine ⟨h.submitted, h.tx, ⟨flight, hrx.receives hq.1 hr, by simp [hdata]⟩, ?_, h.channel⟩
    rw [heq]
    exact h.end_number

theorem Piped.step (h : Piped packets s) (hp : ∀ p ∈ packets, p.Framed ∧ p.FillsPayload)
    (hact : act.isReliable = true)
    (hs : s.step act = some s') : Piped packets s' := by
  obtain ⟨flight, hrx, hdata⟩ := h.rx
  cases System.step_steps hs with
  | @submits now p toSubmit inputBuffer hsubmit hadd =>
    have hmem : p ∈ packets := by simp [← h.submitted, hsubmit]
    exact ⟨by simp [← h.submitted, hsubmit], h.tx.submits (hp p hmem).1 hadd, h.rx, h.end_number, h.channel⟩
  | transmits ht => exact h.transmits ht
  | takesAcks ht => cases ht <;> exact ⟨h.submitted, h.tx.withAcks _ _, h.rx, h.end_number, h.channel⟩
  | @txReceives i recvBuffer d t hd ht =>
    obtain ⟨a, rfl⟩ := h.channel d (List.mem_of_getElem? hd)
    obtain rfl := Transmitter.receiveAck_htons a recvBuffer ht
    exact ⟨h.submitted, h.tx.withAcks _ _, h.rx, h.end_number,
      fun d hd => h.channel d (List.mem_of_mem_eraseIdx hd)⟩
  | txTimesOut ht =>
    obtain rfl := Transmitter.receiveAck_none ht
    exact ⟨h.submitted, h.tx.withAcks _ _, h.rx, h.end_number, h.channel⟩
  | resequences hr => exact h.resequences hp hr
  | rxReceives hd hr =>
    obtain rfl := eq_of_beq hact
    exact h.receives hp hd hr
  | rxTimesOut hr =>
    obtain ⟨hpoint, -⟩ := Receiver.receivePacket_point hr
    obtain rfl := Receiver.receivePacket_none hr
    refine ⟨h.submitted, h.tx, ⟨flight, hrx.point ?_, hdata⟩, h.end_number, h.channel⟩
    rw [hpoint]
    exact fun _ hhand => hhand
  | sendsAcks hr =>
    have hrx' : ∀ ackQueue ackedEndOfTx ackThread, RxPiped s.history.firstSent s.history.obAccepted flight
        { s.receiver with ackQueue := ackQueue, ackedEndOfTx := ackedEndOfTx, ackThread := ackThread } :=
      fun _ _ _ => ⟨hrx.pipe, hrx.expected, hrx.output, hrx.drained, hrx.running⟩
    cases hr with
    | @sending a hpoint =>
      refine ⟨h.submitted, h.tx, ⟨flight, hrx' _ _ _, hdata⟩, h.end_number, fun d hd => ?_⟩
      rcases List.mem_append.mp hd with hd | hd
      · exact h.channel d hd
      · exact ⟨a, List.mem_singleton.mp hd⟩
    | _ => exact ⟨h.submitted, h.tx, ⟨flight, hrx' _ _ _, hdata⟩, h.end_number, by simpa using h.channel⟩
  | tryGetPacket =>
    exact ⟨h.submitted, h.tx, ⟨flight, ⟨hrx.pipe, hrx.expected, hrx.output, hrx.drained, hrx.running⟩, hdata⟩,
      h.end_number, h.channel⟩
  | dropData => cases hact
  | duplicateData => cases hact
  | dropAck => cases hact
  | duplicateAck => cases hact

theorem RxPiped.grows {sent delivered flight : List DataPacket} {r r' : Receiver Rs.DummySCTP} {now : Clock}
    {accepted output : Option DataPacket} (h : RxPiped sent delivered flight r)
    (hf : ∀ q ∈ sent, q.Framed ∧ q.FillsPayload)
    (hnumber : ∀ i q, sent[i]? = some q → q.header.sequenceNumber = UInt16.ofNat i)
    (hr : r.Resequences now r' accepted output) : delivered ++ r.resequencingBuffer.shadowBuffer <+:
      delivered ++ output.toList ++ r'.resequencingBuffer.shadowBuffer := by
  cases hr with
  | added hpoint hadd =>
    obtain ⟨q, hadd', -⟩ := h.added hf hnumber hpoint
    obtain ⟨rfl, rfl⟩ := Prod.mk.inj (Except.ok.inj (hadd.symm.trans hadd'))
    exact ⟨[q], by simp⟩
  | delivered hpoint hnext =>
    rcases hqueue : r.resequencingBuffer.shadowBuffer with _ | ⟨q, queue⟩
    · simp [ResequencingBuffer.getNextPacket, Rs.DummySCTP.getNextPacket, hqueue, SafeQueue.tryPop] at hnext
    · simp only [ResequencingBuffer.getNextPacket, Rs.DummySCTP.getNextPacket, hqueue, SafeQueue.tryPop,
        Prod.mk.injEq, Option.some.injEq] at hnext
      obtain ⟨rfl, rfl⟩ := hnext
      rw [OutputBuffer.addPacket_expected now (h.delivers hnumber hqueue)]
      exact ⟨[], by simp⟩
  | drained hpoint hnext =>
    rcases hqueue : r.resequencingBuffer.shadowBuffer with _ | ⟨q, queue⟩
    · exact ⟨_, by simp only [Option.toList_none, List.append_nil]; rfl⟩
    · simp [ResequencingBuffer.getNextPacket, Rs.DummySCTP.getNextPacket, hqueue, SafeQueue.tryPop] at hnext
  | _ => simp

theorem Piped.grows (h : Piped packets s) (hp : ∀ p ∈ packets, p.Framed ∧ p.FillsPayload)
    (hs : s.step act = some s') : s.handedOver <+: s'.handedOver := by
  obtain ⟨flight, hrx, -⟩ := h.rx
  rcases System.resequences_or_same hs with ⟨now, r, accepted, delivered, hr, rfl⟩ | hsame
  · exact hrx.grows (h.fills hp) h.number hr
  · rw [System.handedOver, System.handedOver, hsame.obAccepted, hsame.resequencingBuffer]

theorem Piped.handedOver_sent (h : Piped packets s) : s.handedOver <+: s.history.firstSent := by
  obtain ⟨flight, hrx, -⟩ := h.rx
  obtain ⟨hand, hpipe, -⟩ := hrx.pipe
  exact ⟨hand ++ flight, by simp [hpipe, System.handedOver]⟩

theorem Piped.accepts_in_order (h : Piped packets s) :
    s.history.obAccepted <+: outgoing s.history.submitted := by
  have hsent : s.history.obAccepted <+: s.history.firstSent :=
    List.IsPrefix.trans (List.prefix_append _ _) h.handedOver_sent
  rw [h.tx.queued]
  exact hsent.trans (List.prefix_append _ _)

theorem Piped.sent_outgoing (h : Piped packets s) : s.history.firstSent <+: outgoing packets := by
  have hsubmitted : outgoing s.history.submitted <+: outgoing packets := by
    rw [← h.submitted]
    exact outgoing_prefix_append _ _
  refine List.IsPrefix.trans ?_ hsubmitted
  rw [h.tx.queued]
  exact List.prefix_append _ _

/-- Only packets that have been handed over are acknowledged, and neither side takes the transmission for
complete before all have been. -/
structure AckedInOrder (packets : List DataPacket) (s : System Rt.DummySCTP Rs.DummySCTP) : Prop where
  acks : ∀ a, s.HasAck a → ∃ i < s.handedOver.length, a = UInt16.ofNat i
  complete : s.transmitter.endOfTxAcked = true ∨ s.receiver.ackedEndOfTx = true →
    packets.length ≤ s.handedOver.length

theorem Piped.all_handedOver (h : Piped packets s) (hf : ∀ p ∈ packets, p.Framed) (hn : packets.length ≤ 65536)
    (hend : EndsTransmission packets) (ha : AckedInOrder packets s) (hack : s.HasAck a)
    (hnumber : EndNumber s.history.firstSent a) : packets.length ≤ s.handedOver.length := by
  obtain ⟨i, p, hp, hlast, rfl⟩ := hnumber
  obtain ⟨p₀, hp₀, rfl⟩ := h.sent_getElem? hp
  rw [numbered_isEndOfTx, (hf p₀ (List.mem_of_getElem? hp₀)).isEndOfTx_iff, hend i p₀ hp₀] at hlast
  obtain ⟨j, hj, heq⟩ := ha.acks _ hack
  have hsent := h.handedOver_sent.length_le
  have hle := h.sent_outgoing.length_le
  rw [outgoing_length] at hle
  have hij := congrArg UInt16.toNat heq
  rw [toNat_ofNat_of_lt (by omega), toNat_ofNat_of_lt (by omega)] at hij
  omega

theorem System.obAccepted_of_step (hs : s.step act = some s') :
    s.history.obAccepted.length ≤ s'.history.obAccepted.length := by
  rcases System.resequences_or_same hs with ⟨now, r, accepted, delivered, -, rfl⟩ | hsame
  · simp
  · rw [hsame.obAccepted]

theorem Piped.new_ack (h : Piped packets s) (hp : ∀ p ∈ packets, p.Framed ∧ p.FillsPayload) {p : DataPacket}
    {b : Rs.DummySCTP} (hpoint : s.receiver.resequencingThread = .adding p)
    (hadd : ResequencingBuffer.addPacket s.receiver.resequencingBuffer p = .ok (some a, b)) :
    a = UInt16.ofNat s.handedOver.length ∧
      b.shadowBuffer.length = s.receiver.resequencingBuffer.shadowBuffer.length + 1 := by
  obtain ⟨flight, hrx, -⟩ := h.rx
  obtain ⟨q, hadd', hpipe⟩ := hrx.added (h.fills hp) h.number hpoint
  obtain ⟨hsn, rfl⟩ := Prod.mk.inj (Except.ok.inj (hadd.symm.trans hadd'))
  refine ⟨?_, List.length_append⟩
  rw [Option.some.inj hsn]
  apply h.number
  rw [hpipe]
  simp [System.handedOver]

theorem Piped.complete_step (h : Piped packets s) (hp : ∀ p ∈ packets, p.Framed ∧ p.FillsPayload)
    (hn : packets.length ≤ 65536) (hend : EndsTransmission packets) (ha : AckedInOrder packets s)
    (hs : s.step act = some s')
    (hacked : s'.transmitter.endOfTxAcked = true ∨ s'.receiver.ackedEndOfTx = true) :
    packets.length ≤ s.handedOver.length := by
  have hf : ∀ p ∈ packets, p.Framed := fun p hmem => (hp p hmem).1
  cases System.step_steps hs with
  | transmits ht =>
    cases ht with
    | @endAcked sn queue _ _ hqueue heq =>
      have hack : s.HasAck sn := .inr (.inr (.inr (hqueue ▸ List.mem_cons_self)))
      exact h.all_handedOver hf hn hend ha hack (h.tx.end_number sn heq.symm)
    | _ => exact ha.complete hacked
  | takesAcks ht => cases ht <;> exact ha.complete hacked
  | txReceives _ ht =>
    obtain ⟨-, point, rfl, -⟩ := Transmitter.receiveAck_point ht
    exact ha.complete hacked
  | txTimesOut ht =>
    obtain ⟨-, point, rfl, -⟩ := Transmitter.receiveAck_point ht
    exact ha.complete hacked
  | resequences hr => cases hr <;> exact ha.complete hacked
  | rxReceives _ hr =>
    obtain ⟨-, point, rfl, -⟩ := Receiver.receivePacket_point hr
    exact ha.complete hacked
  | rxTimesOut hr =>
    obtain ⟨-, point, rfl, -⟩ := Receiver.receivePacket_point hr
    exact ha.complete hacked
  | sendsAcks hr =>
    cases hr with
    | @sent sn hpoint =>
      have hack : s.HasAck sn := .inl (.inr (.inr (.inr hpoint)))
      rcases hacked with htx | hrx
      · exact ha.complete (.inl htx)
      · rcases Bool.or_eq_true_iff.mp hrx with hold | hnew
        · exact ha.complete (.inr hold)
        · exact h.all_handedOver hf hn hend ha hack (h.end_number sn (beq_iff_eq.mp hnew))
    | _ => exact ha.complete hacked
  | _ => exact ha.complete hacked

theorem AckedInOrder.step (ha : AckedInOrder packets s) (h : Piped packets s)
    (hp : ∀ p ∈ packets, p.Framed ∧ p.FillsPayload) (hn : packets.length ≤ 65536) (hend : EndsTransmission packets)
    (hact : act.isReliable = true) (hs : s.step act = some s') : AckedInOrder packets s' := by
  have hgrows := (h.grows hp hs).length_le
  constructor
  · intro a hack
    rcases System.hasAck_of_reliable h.channel hact hs hack with hold | ⟨p, b, hpoint, hadd, rfl⟩
    · obtain ⟨i, hi, heq⟩ := ha.acks a hold
      exact ⟨i, Nat.lt_of_lt_of_le hi hgrows, heq⟩
    · obtain ⟨rfl, hlength⟩ := h.new_ack hp hpoint hadd
      refine ⟨s.handedOver.length, ?_, rfl⟩
      have hmono := System.obAccepted_of_step hs
      rw [System.handedOver, System.handedOver, List.length_append, List.length_append, hlength]
      omega
  · intro hacked
    exact Nat.le_trans (h.complete_step hp hn hend ha hs hacked) hgrows

theorem piped_new (packets : List DataPacket) :
    Piped packets (System.new packets .new (.new firstSequenceNumber)) where
  submitted := rfl
  tx := {
    numbering := by
      change (0 : UInt16) - 1 + 1 = UInt16.ofNat 0
      decide
    queued := rfl
    queued_number := fun i o ho => by cases ho
    held := ⟨[], trivial, fun o ho => by cases ho⟩
    end_number := fun sn hsn => by cases hsn
    end_sent := fun p hp => by cases hp
    running := by simp [System.new, Transmitter.new] }
  rx := by
    refine ⟨[], ⟨⟨[], rfl, rfl⟩, rfl, rfl, fun _ => rfl, ?_⟩, rfl⟩
    simp [System.new, Receiver.new]
  end_number sn hsn := by cases hsn
  channel d hd := by cases hd

theorem ackedInOrder_new (packets : List DataPacket) :
    AckedInOrder packets (System.new packets .new (.new firstSequenceNumber)) where
  acks := by
    rintro a ((ha | ha | ha | ha) | ha | ha | ha) <;> cases ha
  complete := by
    rintro (ha | ha) <;> cases ha

abbrev System.ReliableRun (packets : List DataPacket) (s : System Rt.DummySCTP Rs.DummySCTP) : Prop :=
  Runs.Reaches (fun s act s' => System.step s act = some s') (fun _ act => act.isReliable = true)
    (System.new packets .new (.new firstSequenceNumber)) s

/-- With the buffers for SCTP every packet goes through unchanged and in order; neither side takes the
transmission for complete before all packets have been handed over. -/
theorem dummy_sctp_delivers (packets : List DataPacket)
    (hp : ∀ p ∈ packets, p.TransmitSide ∧ p.FillsPayload) (s : System Rt.DummySCTP Rs.DummySCTP)
    (hs : s.ReliableRun packets) :
    s.history.obAccepted <+: outgoing s.history.submitted ∧
      (∀ fault, s.transmitter.transmitThread ≠ .terminated fault ∧
        s.receiver.resequencingThread ≠ .terminated fault) ∧
      (packets.length ≤ 2 ^ 16 → EndsTransmission packets →
        s.transmitter.endOfTxAcked = true ∨ s.receiver.ackedEndOfTx = true →
        s.handedOver = outgoing packets ∧
          (s.receiver.resequencingThread = .exited → s.history.obAccepted = outgoing packets)) := by
  have hf : ∀ p ∈ packets, p.Framed ∧ p.FillsPayload := fun p hmem => ⟨(hp p hmem).1.framed, (hp p hmem).2⟩
  have h : Piped packets s := hs.invariant (piped_new packets) (fun _ _ _ ht hact hs => ht.step hf hact hs)
  obtain ⟨flight, hrx, -⟩ := h.rx
  refine ⟨h.accepts_in_order, fun fault => ⟨h.tx.running fault, hrx.running fault⟩, fun hn hend hacked => ?_⟩
  · have hboth : Piped packets s ∧ AckedInOrder packets s :=
      hs.invariant (P := fun s => Piped packets s ∧ AckedInOrder packets s)
        ⟨piped_new packets, ackedInOrder_new packets⟩
        (fun _ _ _ ht hact hs => ⟨ht.1.step hf hact hs, ht.2.step ht.1 hf hn hend hact hs⟩)
    have hall : s.handedOver = outgoing packets := by
      refine List.IsPrefix.eq_of_length_le (h.handedOver_sent.trans h.sent_outgoing) ?_
      rw [outgoing_length]
      exact hboth.2.complete hacked
    refine ⟨hall, fun hexited => ?_⟩
    rw [← hall, System.handedOver, hrx.drained (.inr hexited), List.append_nil]

end Runs

def filledPackets : List DataPacket :=
  [⟨⟨1, 0, 1000⟩, (⟨1, 0, 1000⟩ : DataPacketHeader).packed ++ List.replicate 1000 0⟩, ⟨⟨0, 0, 0⟩, [0, 0, 0, 0, 0]⟩]

theorem filledPackets_transmitSide : ∀ p ∈ filledPackets, p.TransmitSide ∧ p.FillsPayload := by
  intro p hp
  rcases List.mem_cons.mp hp with rfl | hp
  · exact ⟨.ofHeader ⟨1, 0, 1000⟩ (by decide +kernel), .inr rfl⟩
  · obtain rfl := List.mem_singleton.mp hp
    exact ⟨.default (by decide), .inl rfl⟩

theorem filledPackets_endsTransmission : EndsTransmission filledPackets := by
  rintro (_ | _ | i) p hp
  · obtain rfl := Option.some.inj hp
    decide +kernel
  · obtain rfl := Option.some.inj hp
    decide
  · cases hp

theorem dummy_sctp_delivers_run : ∃ s : System Rt.DummySCTP Rs.DummySCTP, s.ReliableRun filledPackets ∧
    s.history.obAccepted.length = 2 ∧ s.handedOver = outgoing filledPackets := by
  have hrun : ((Runs.replay System.step (System.new filledPackets Rt.DummySCTP.new
      (Rs.DummySCTP.new firstSequenceNumber)) sampleRun).any
        fun s => s.history.obAccepted.length == 2 && s.receiver.ackedEndOfTx) = true := by
    decide +kernel
  have hreliable : Runs.AlongRun System.step (fun _ act => act.isReliable = true)
      (System.new filledPackets Rt.DummySCTP.new (Rs.DummySCTP.new firstSequenceNumber)) sampleRun := by
    have hall : sampleRun.all Action.isReliable = true := rfl
    exact Runs.alongRun_of_calls (fun act hact _ => List.all_eq_true.mp hall act hact) _
  obtain ⟨s, hs, htest⟩ := Runs.exists_reaches hreliable hrun
  simp only [Bool.and_eq_true, beq_iff_eq] at htest
  have hdelivers := dummy_sctp_delivers filledPackets filledPackets_transmitSide s hs
  have hlength : filledPackets.length = 2 := rfl
  exact ⟨s, hs, htest.1, (hdelivers.2.2 (by omega) filledPackets_endsTransmission (.inr htest.2)).1⟩

end ArqBenchmark
