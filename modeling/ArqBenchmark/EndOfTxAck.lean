import ArqBenchmark.TerminationAgreement

namespace ArqBenchmark

open ResequencingView DataPacket

theorem htons_inj {a b : UInt16} (h : htons a = htons b) : a = b := by
  rw [← ntohs_htons a [], ← ntohs_htons b [], h]

def EndsOnce (packets : List DataPacket) : Prop :=
  ∀ (i j : ℕ) (p q : DataPacket), packets[i]? = some p → packets[j]? = some q →
    p.isEndOfTx = true → q.isEndOfTx = true → i = j

namespace System

variable {B R : Type}

/-- An ACK for `e` has been processed by the transmitter, has been received by it, or is in flight to it. -/
def AckAlive (s : System B R) (e : SequenceNumber) : Prop :=
  s.transmitter.endOfTxAcked = true ∨ htons e ∈ s.ackChannel ∨ s.transmitter.HasAck e

/-- The network does not drop the last copy of the ACK for the end-of-transmission packet. -/
def KeepsEndAck (s : System B R) : Action → Prop
  | .dropAck i => ∀ e ∈ s.transmitter.endOfTxSeqNum, s.ackChannel[i]? = some (htons e) →
      s.transmitter.endOfTxAcked = true ∨ htons e ∈ s.ackChannel.eraseIdx i ∨ s.transmitter.HasAck e
  | _ => True

theorem KeepsEndAck.of_ne {s : System B R} {act : Action} (h : ∀ i, act ≠ .dropAck i) : s.KeepsEndAck act := by
  cases act with
  | dropAck i => exact absurd rfl (h i)
  | _ => trivial

/-- The receiver takes no end-of-transmission packet with the number of an ACK that it has just sent for
another packet. -/
def NewEnd (s : System B R) : Action → Prop
  | .resequencingThread _ => ∀ p, s.receiver.resequencingThread = .received p → p.isEndOfTx = true →
      s.receiver.ackThread = .sent p.header.sequenceNumber → s.receiver.endOfTxSn = some p.header.sequenceNumber
  | _ => True

end System

variable {B R : Type}

variable {packets : List DataPacket} {s s' : System B R} {act : Action} {a e : SequenceNumber}

theorem EndsTransmission.endsOnce (h : EndsTransmission packets) (hf : ∀ p ∈ packets, p.Framed) :
    EndsOnce packets := by
  intro i j p q hp hq hpend hqend
  rw [(hf p (List.mem_of_getElem? hp)).isEndOfTx_iff, h i p hp] at hpend
  rw [(hf q (List.mem_of_getElem? hq)).isEndOfTx_iff, h j q hq] at hqend
  omega

theorem Transmitter.TakesAcks.keepsAck {t t' : Transmitter B} (ht : t.TakesAcks t') (ha : t.HasAck e) :
    t'.HasAck e := by
  cases ht with
  | loop hpoint => exact .inr (ha.resolve_left (by simp [hpoint]))
  | @pushed b hpoint =>
    refine .inr (List.mem_append.mpr ?_)
    rcases ha with ha | ha
    · obtain rfl : b = e := by simpa [hpoint] using ha
      exact .inr (List.mem_singleton_self _)
    · exact .inl ha

variable [RetransmissionBuffer B]

theorem Transmitter.Transmits.keepsAck {t t' : Transmitter B} {now : Clock} {d : Option (List Byte)}
    {p : Option DataPacket} (ht : t.Transmits now t' d p) (hend : t.endOfTxSeqNum = some e)
    (ha : t.endOfTxAcked = true ∨ t.HasAck e) : t'.endOfTxAcked = true ∨ t'.HasAck e := by
  -- A number that is taken off the queue and is not the end's number leaves `e` where it was.
  have hpopped : ∀ {sn : SequenceNumber} {queue : SafeQueue SequenceNumber}, t.endOfTxAcked = false →
      t.ackQueue = sn :: queue → some sn ≠ t.endOfTxSeqNum → t.ackThread = .pushing e ∨ e ∈ queue := by
    intro sn queue hacked hqueue hne
    rcases ha with ha | ha | ha
    · exact absurd ha (by rw [hacked]; exact Bool.false_ne_true)
    · exact .inl ha
    · rw [hqueue] at ha
      rcases List.mem_cons.mp ha with rfl | ha
      · exact absurd hend.symm hne
      · exact .inr ha
  cases ht with
  | endAcked => exact .inl rfl
  | acked _ hacked hqueue hne => exact .inr (hpopped hacked hqueue hne)
  | ackFault _ hacked hqueue hne => exact .inr (hpopped hacked hqueue hne)
  | _ => exact ha

variable [LawfulRetransmission B] [ResequencingView R]

theorem Carried.end_number_unique (h : Carried packets s) (hone : EndsOnce packets)
    (ha : EndNumber s.history.firstSent a) (he : EndNumber s.history.firstSent e) : a = e := by
  obtain ⟨i, p, hp, hpend, rfl⟩ := ha
  obtain ⟨j, q, hq, hqend, rfl⟩ := he
  obtain ⟨p₀, hp₀, rfl⟩ := h.sent_getElem? hp
  obtain ⟨q₀, hq₀, rfl⟩ := h.sent_getElem? hq
  rw [hone i j p₀ q₀ hp₀ hq₀ hpend hqend]

theorem Carried.endOfTxSeqNum_eq (h : Carried packets s) (hone : EndsOnce packets)
    (he : EndNumber s.history.firstSent e) : s.transmitter.endOfTxSeqNum = some e := by
  obtain ⟨i, p, hp, hend, -⟩ := id he
  obtain ⟨sn, hsn⟩ := Option.isSome_iff_exists.mp (h.tx.end_sent p (List.mem_of_getElem? hp) hend)
  rw [hsn, h.end_number_unique hone (h.tx.end_number sn hsn) he]

theorem Carried.ackAlive_of_txReceives (h : Carried packets s) {i : ℕ} {recvBuffer : ReceiveBuffer}
    {d : List Byte} {t : Transmitter B} (hd : s.ackChannel[i]? = some d)
    (ht : s.transmitter.receiveAck (some (receiveInto d recvBuffer)) = some t) (halive : s.AckAlive e) :
    ({ s with transmitter := t, ackChannel := s.ackChannel.eraseIdx i } : System B R).AckAlive e := by
  obtain ⟨b, rfl⟩ := h.acks d (List.mem_of_getElem? hd)
  obtain ⟨hreceiving, -⟩ := Transmitter.receiveAck_point ht
  obtain rfl := Transmitter.receiveAck_htons b recvBuffer ht
  rcases halive with hacked | hflight | hpushing | hqueued
  · exact .inl hacked
  · obtain ⟨j, hj⟩ := List.getElem?_of_mem hflight
    by_cases hij : j = i
    · obtain rfl : b = e := htons_inj (Option.some.inj (hd.symm.trans (hij ▸ hj)))
      exact .inr (.inr (.inl rfl))
    · exact .inr (.inl (List.mem_eraseIdx_iff_getElem?.mpr ⟨j, hij, hj⟩))
  · exact absurd hpushing (by simp [hreceiving])
  · exact .inr (.inr (.inr hqueued))

variable [ResequencingBuffer R]

theorem Carried.ackAlive_step (h : Carried packets s) (hone : EndsOnce packets)
    (he : EndNumber s.history.firstSent e) (halive : s.AckAlive e) (hkeeps : s.KeepsEndAck act)
    (hs : s.step act = some s') : s'.AckAlive e := by
  have hend := h.endOfTxSeqNum_eq hone he
  cases System.step_steps hs with
  | transmits ht =>
    have hkept := ht.keepsAck hend
    rcases halive with hacked | hflight | hhas
    · exact (hkept (.inl hacked)).imp_right .inr
    · exact .inr (.inl hflight)
    · exact (hkept (.inr hhas)).imp_right .inr
  | takesAcks ht =>
    rcases halive with hacked | hflight | hhas
    · refine .inl ?_
      cases ht <;> exact hacked
    · exact .inr (.inl hflight)
    · exact .inr (.inr (ht.keepsAck hhas))
  | txReceives hd ht => exact h.ackAlive_of_txReceives hd ht halive
  | txTimesOut ht =>
    obtain ⟨hreceiving, -⟩ := Transmitter.receiveAck_point ht
    obtain rfl := Transmitter.receiveAck_none ht
    refine halive.imp_right (Or.imp_right ?_)
    rintro (hpushing | hqueued)
    · exact absurd hpushing (by simp [hreceiving])
    · exact .inr hqueued
  | sendsAcks => exact halive.imp_right (Or.imp_left (List.mem_append_left _))
  | @dropAck i =>
    rcases halive with hacked | hflight | hhas
    · exact .inl hacked
    · obtain ⟨j, hj⟩ := List.getElem?_of_mem hflight
      by_cases hij : j = i
      · exact hkeeps e hend (hij ▸ hj)
      · exact .inr (.inl (List.mem_eraseIdx_iff_getElem?.mpr ⟨j, hij, hj⟩))
    · exact .inr (.inr hhas)
  | duplicateAck => exact halive.imp_right (Or.imp_left (List.mem_append_left _))
  | _ => exact halive

end ArqBenchmark
