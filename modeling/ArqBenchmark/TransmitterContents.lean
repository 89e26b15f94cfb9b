import ArqBenchmark.NumberedPackets
import ArqBenchmark.RetransmissionLaws
import ArqBenchmark.Transmitter

namespace ArqBenchmark

open DataPacket

variable {B : Type} [RetransmissionBuffer B] [LawfulRetransmission B]

structure TxCarried (submitted sent : List DataPacket) (t : Transmitter B) : Prop where
  numbering : t.inputBuffer.lastSequenceNumber + 1 = UInt16.ofNat submitted.length
  queued : outgoing submitted = sent ++ t.inputBuffer.inputPackets.map TransmitBufferObject.packet
  queued_number : ∀ i o, t.inputBuffer.inputPackets[i]? = some o →
    o.info.sequenceNumber = UInt16.ofNat (sent.length + i)
  held : ∃ q, LawfulRetransmission.Holds t.retransmissionBuffer q ∧ ∀ o ∈ q, o.packet ∈ sent
  end_number : ∀ sn ∈ t.endOfTxSeqNum, EndNumber sent sn
  end_sent : ∀ p ∈ sent, p.isEndOfTx = true → t.endOfTxSeqNum.isSome = true
  running : ∀ fault, t.transmitThread ≠ .terminated fault

variable {submitted sent : List DataPacket} {t t' : Transmitter B}

theorem TxCarried.withAcks (h : TxCarried submitted sent t) (ackQueue : SafeQueue SequenceNumber)
    (ackThread : TxAckPoint) :
    TxCarried submitted sent { t with ackQueue := ackQueue, ackThread := ackThread } :=
  ⟨h.numbering, h.queued, h.queued_number, h.held, h.end_number, h.end_sent, h.running⟩

theorem TxCarried.submits (h : TxCarried submitted sent t) {p : DataPacket} (hp : p.Framed) {now : Clock}
    {inputBuffer : InputBuffer} (hadd : t.inputBuffer.addPacket now p = .ok inputBuffer) :
    TxCarried (submitted ++ [p]) sent { t with inputBuffer := inputBuffer } := by
  rw [InputBuffer.addPacket_eq hp] at hadd
  obtain rfl := Except.ok.inj hadd
  have hlen := congrArg List.length h.queued
  rw [outgoing_length, List.length_append, List.length_map] at hlen
  refine ⟨?_, ?_, ?_, h.held, h.end_number, h.end_sent, h.running⟩
  · rw [List.length_append, List.length_singleton, UInt16.ofNat_add, ← h.numbering]
    rfl
  · rw [outgoing_concat, h.queued, List.map_append, List.append_assoc, numbered, ← h.numbering]
    rfl
  · intro i o ho
    by_cases hi : i < t.inputBuffer.inputPackets.length
    · rw [List.getElem?_append_left hi] at ho
      exact h.queued_number i o ho
    · rw [List.getElem?_append_right (by omega)] at ho
      obtain ⟨hi', rfl⟩ := List.getElem?_eq_some_iff.mp ho
      have hlast : i - t.inputBuffer.inputPackets.length < 1 := hi'
      rw [List.getElem_singleton]
      change t.inputBuffer.lastSequenceNumber + 1 = _
      rw [h.numbering, hlen]
      congr 1
      omega

theorem TxCarried.withBuffer (h : TxCarried submitted sent t) {b : B} {q : List TransmitBufferObject}
    {point : TransmitPoint} (hq : LawfulRetransmission.Holds b q) (hsent : ∀ o ∈ q, o.packet ∈ sent)
    (hpoint : ∀ fault, point ≠ .terminated fault) :
    TxCarried submitted sent { t with retransmissionBuffer := b, transmitThread := point } :=
  ⟨h.numbering, h.queued, h.queued_number, ⟨q, hq, hsent⟩, h.end_number, h.end_sent, hpoint⟩

theorem TxCarried.tryGetPacketSpan (h : TxCarried submitted sent t) {now : Clock}
    {span : Option (List Byte)} {b : B} {point : TransmitPoint} (hpoint : ∀ fault, point ≠ .terminated fault)
    (htry : RetransmissionBuffer.tryGetPacketSpan t.retransmissionBuffer now = .ok (span, b)) :
    TxCarried submitted sent { t with retransmissionBuffer := b, transmitThread := point } ∧
      ∀ d ∈ span, ∃ p ∈ sent, d = p.data := by
  obtain ⟨q, hq, hsent⟩ := h.held
  obtain ⟨span', b', q', htry', hq', hheld, hbytes⟩ := LawfulRetransmission.tryGetPacketSpan hq now
  obtain ⟨rfl, rfl⟩ := Prod.mk.inj (Except.ok.inj (htry.symm.trans htry'))
  refine ⟨h.withBuffer hq' (fun o ho => ?_) hpoint, fun d hd => ?_⟩
  · obtain ⟨o', ho', heq⟩ := List.mem_map.mp (hheld ▸ List.mem_map_of_mem ho)
    have hpacket : o'.packet = o.packet := congrArg Prod.fst heq
    exact hpacket ▸ hsent o' ho'
  · obtain ⟨o, ho, rfl⟩ := hbytes d hd
    exact ⟨o.packet, hsent o ho, rfl⟩

theorem TxCarried.addPacket (h : TxCarried submitted sent t) {newPkt : TransmitBufferObject}
    {queue : SafeQueue TransmitBufferObject} {b : B}
    (hready : RetransmissionBuffer.readyForNewPacket t.retransmissionBuffer = true)
    (hqueue : t.inputBuffer.inputPackets = newPkt :: queue)
    (hadd : RetransmissionBuffer.addPacket t.retransmissionBuffer newPkt = .ok b) :
    TxCarried submitted (sent ++ [newPkt.packet]) { t with
      inputBuffer := { t.inputBuffer with inputPackets := queue }
      endOfTxSeqNum := if newPkt.isEndOfTx then some newPkt.info.sequenceNumber else t.endOfTxSeqNum
      retransmissionBuffer := b
      transmitThread := .processAckQueue } := by
  obtain ⟨q, hq, hsent⟩ := h.held
  obtain ⟨b', hadd', hb⟩ := LawfulRetransmission.addPacket hq hready newPkt
  obtain rfl := Except.ok.inj (hadd.symm.trans hadd')
  have hnumber : newPkt.info.sequenceNumber = UInt16.ofNat sent.length :=
    h.queued_number 0 newPkt (by rw [hqueue]; rfl)
  have hlast : (sent ++ [newPkt.packet])[sent.length]? = some newPkt.packet := by simp
  refine ⟨h.numbering, ?_, ?_, ⟨q ++ [newPkt], hb, ?_⟩, ?_, ?_, by simp⟩
  · rw [h.queued, hqueue]
    simp
  · intro i o ho
    rw [h.queued_number (i + 1) o (by rw [hqueue]; exact ho)]
    simp only [List.length_append, List.length_singleton]
    congr 1
    omega
  · intro o ho
    rcases List.mem_append.mp ho with ho | ho
    · exact List.mem_append_left _ (hsent o ho)
    · rw [List.mem_singleton.mp ho]
      exact List.mem_append_right _ (List.mem_singleton_self _)
  · intro sn hsn
    by_cases hend : newPkt.isEndOfTx = true
    · rw [if_pos hend] at hsn
      exact ⟨sent.length, newPkt.packet, hlast, hend, (Option.some.inj hsn).symm.trans hnumber⟩
    · rw [if_neg hend] at hsn
      exact (h.end_number sn hsn).mono
  · intro p hp hend
    by_cases ho : newPkt.isEndOfTx = true
    · rw [if_pos ho]
      rfl
    · rw [if_neg ho]
      rcases List.mem_append.mp hp with hp | hp
      · exact h.end_sent p hp hend
      · rw [List.mem_singleton.mp hp] at hend
        exact absurd hend ho

theorem TxCarried.transmits (h : TxCarried submitted sent t) {now : Clock} {d : Option (List Byte)}
    {p : Option DataPacket} (ht : t.Transmits now t' d p) :
    TxCarried submitted (sent ++ p.toList) t' ∧ ∀ bytes ∈ d, ∃ p' ∈ sent ++ p.toList, bytes = p'.data := by
  have hpoint : ∀ {point : TransmitPoint}, (∀ fault, point ≠ .terminated fault) →
      TxCarried submitted sent { t with transmitThread := point } :=
    fun hpoint => ⟨h.numbering, h.queued, h.queued_number, h.held, h.end_number, h.end_sent, hpoint⟩
  obtain ⟨q, hq, hsent⟩ := h.held
  cases ht with
  | retransmitted _ htry =>
    rw [Option.toList_none, List.append_nil]
    exact h.tryGetPacketSpan (by simp) htry
  | noneTimedOut _ htry =>
    rw [Option.toList_none, List.append_nil]
    exact h.tryGetPacketSpan (by simp) htry
  | retransmissionFault _ htry =>
    obtain ⟨span, b, q', htry', -⟩ := LawfulRetransmission.tryGetPacketSpan hq now
    cases htry.symm.trans htry'
  | notReady =>
    rw [Option.toList_none, List.append_nil]
    exact ⟨hpoint (by simp), fun _ hb => by cases hb⟩
  | noPacket =>
    rw [Option.toList_none, List.append_nil]
    exact ⟨hpoint (by simp), fun _ hb => by cases hb⟩
  | @sent newPkt queue b _ hready hqueue hadd =>
    refine ⟨h.addPacket hready hqueue hadd, fun bytes hb => ⟨newPkt.packet, ?_, (Option.some.inj hb).symm⟩⟩
    exact List.mem_append_right _ (List.mem_singleton_self _)
  | @sendFault newPkt queue fault _ hready hqueue hadd =>
    obtain ⟨b, hadd', -⟩ := LawfulRetransmission.addPacket hq hready newPkt
    cases hadd.symm.trans hadd'
  | exited =>
    rw [Option.toList_none, List.append_nil]
    exact ⟨hpoint (by simp), fun _ hb => by cases hb⟩
  | emptied =>
    rw [Option.toList_none, List.append_nil]
    exact ⟨hpoint (by simp), fun _ hb => by cases hb⟩
  | endAcked =>
    rw [Option.toList_none, List.append_nil]
    exact ⟨⟨h.numbering, h.queued, h.queued_number, h.held, h.end_number, h.end_sent, h.running⟩,
      fun _ hb => by cases hb⟩
  | @acked sn queue b _ _ _ _ hack =>
    obtain ⟨b', k, hack', hb⟩ := LawfulRetransmission.acknowledgePacket hq sn
    obtain rfl := Except.ok.inj (hack.symm.trans hack')
    rw [Option.toList_none, List.append_nil]
    exact ⟨⟨h.numbering, h.queued, h.queued_number,
      ⟨q.drop k, hb, fun o ho => hsent o (List.mem_of_mem_drop ho)⟩,
      h.end_number, h.end_sent, h.running⟩, fun _ hb => by cases hb⟩
  | @ackFault sn queue fault _ _ _ _ hack =>
    obtain ⟨b, k, hack', -⟩ := LawfulRetransmission.acknowledgePacket hq sn
    cases hack.symm.trans hack'

theorem TxCarried.sent_getElem? (h : TxCarried submitted sent t) {i : ℕ} {p : DataPacket}
    (hp : sent[i]? = some p) : ∃ p₀, submitted[i]? = some p₀ ∧ p = numbered i p₀ := by
  have hi : i < sent.length := (List.getElem?_eq_some_iff.mp hp).1
  refine outgoing_getElem? ?_
  rw [h.queued, List.getElem?_append_left hi, hp]

theorem TxCarried.sent_framed (h : TxCarried submitted sent t) (hf : ∀ p ∈ submitted, p.Framed) {p : DataPacket}
    (hp : p ∈ sent) : p.Framed := by
  obtain ⟨i, hi⟩ := List.getElem?_of_mem hp
  obtain ⟨p₀, hp₀, rfl⟩ := h.sent_getElem? hi
  exact (hf p₀ (List.mem_of_getElem? hp₀)).withHeader rfl

end ArqBenchmark
