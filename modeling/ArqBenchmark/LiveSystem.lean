import ArqBenchmark.EndAckKept
import ArqBenchmark.LiveBuffers
import ArqBenchmark.SlidingWindow

namespace ArqBenchmark

open ResequencingView DataPacket LawfulRetransmission LiveRetransmission LiveResequencing

def lastNumber (packets : List DataPacket) : SequenceNumber := UInt16.ofNat (packets.length - 1)

/-- A transmission for which the sequence numbers do not roll over, with a window of `size` packets. -/
structure Transmittable (R : Type) [ResequencingView R] (packets : List DataPacket) (size : ℕ) : Prop where
  framed : ∀ p ∈ packets, p.Framed
  ends : EndsTransmission packets
  nonempty : packets ≠ []
  short : packets.length < 65536
  short_early : early R → packets.length + size < 65536
  size_pos : 0 < size

theorem Transmittable.lastNumber_toNat {R : Type} [ResequencingView R] {packets : List DataPacket} {size : ℕ}
    (hp : Transmittable R packets size) : (lastNumber packets).toNat + 1 = packets.length := by
  have hpos := List.length_pos_iff.mpr hp.nonempty
  have hshort := hp.short
  rw [lastNumber, toNat_ofNat_of_lt (by omega)]
  omega

section Receivers

variable {R : Type} [ResequencingBuffer R] {packets accepted : List DataPacket} {r r' : Receiver R}
  {act : Action} {a : SequenceNumber}

def EndKnown (packets accepted : List DataPacket) (r : Receiver R) : Prop :=
  ∀ p, p ∈ accepted ∨ r.resequencingThread = .adding p → p.isEndOfTx = true →
    r.endOfTxSn = some (lastNumber packets)

theorem EndKnown.resequences (h : EndKnown packets accepted r)
    (hend : ∀ p, r.resequencingThread = .received p → p.isEndOfTx = true →
      p.header.sequenceNumber = lastNumber packets) {now : Clock} {p delivered : Option DataPacket}
    (hr : r.Resequences now r' p delivered) : EndKnown packets (accepted ++ p.toList) r' := by
  intro x hx hxend
  cases hr with
  | loop hpoint =>
    rw [Option.toList_none, List.append_nil] at hx
    refine h x (hx.imp_right (fun hadding => ?_)) hxend
    cases hacked : r.ackedEndOfTx <;> simp [hacked] at hadding
  | @received p hpoint =>
    rw [Option.toList_none, List.append_nil] at hx
    by_cases hp : p.isEndOfTx = true
    · change (if p.isEndOfTx = true then some p.header.sequenceNumber else r.endOfTxSn) = _
      rw [if_pos hp, hend p hpoint hp]
    · change (if p.isEndOfTx = true then some p.header.sequenceNumber else r.endOfTxSn) = _
      rw [if_neg hp]
      rcases hx with hx | hadding
      · exact h x (.inl hx) hxend
      · obtain rfl : p = x := by simpa using hadding
        exact absurd hxend hp
  | @added p ack b hpoint hadd =>
    refine h x ?_ hxend
    rcases hx with hx | hadding
    · rcases List.mem_append.mp hx with hx | hx
      · exact .inl hx
      · split at hx
        · rw [Option.toList_some, List.mem_singleton] at hx
          exact .inr (hx ▸ hpoint)
        · cases hx
    · cases ack <;> cases hadding
  | faulted =>
    rw [Option.toList_none, List.append_nil] at hx
    exact h x (hx.imp_right (fun hadding => by cases hadding)) hxend
  | pushed =>
    rw [Option.toList_none, List.append_nil] at hx
    exact h x (hx.imp_right (fun hadding => by cases hadding)) hxend
  | delivered =>
    rw [Option.toList_none, List.append_nil] at hx
    exact h x hx hxend
  | drained =>
    rw [Option.toList_none, List.append_nil] at hx
    exact h x (hx.imp_right (fun hadding => by cases hadding)) hxend

theorem System.RxStep.ackThread_sent (h : RxStep r act r') (hsent : r.ackThread = .sent a) :
    r'.ackThread = .sent a ∨ r'.ackedEndOfTx = (r.ackedEndOfTx || r.endOfTxSn == some a) := by
  cases h with
  | same => exact .inl hsent
  | resequences hr => cases hr <;> exact .inl hsent
  | received hr =>
    obtain ⟨-, point, rfl, -⟩ := Receiver.receivePacket_point hr
    exact .inl hsent
  | sendsAcks hr =>
    cases hr with
    | sent hpoint =>
      obtain rfl := RxAckPoint.sent.inj (hpoint.symm.trans hsent)
      exact .inr rfl
    | loop hpoint => cases hpoint.symm.trans hsent
    | popped hpoint => cases hpoint.symm.trans hsent
    | idle hpoint => cases hpoint.symm.trans hsent
    | sending hpoint => cases hpoint.symm.trans hsent
  | tryGetPacket => exact .inl hsent

theorem System.RxStep.ackThread_exited (h : RxStep r act r') (he : r'.ackThread = .exited) :
    r.ackedEndOfTx = true ∨ r.ackThread = .exited := by
  cases h with
  | same => exact .inr he
  | resequences hr => cases hr <;> exact .inr he
  | received hr =>
    obtain ⟨-, point, rfl, -⟩ := Receiver.receivePacket_point hr
    exact .inr he
  | sendsAcks hr =>
    cases hr with
    | loop =>
      left
      cases hacked : r.ackedEndOfTx with
      | true => rfl
      | false => simp [hacked] at he
    | _ => cases he
  | tryGetPacket => exact .inr he

end Receivers

variable {B R : Type} [RetransmissionBuffer B] [LawfulRetransmission B] [ResequencingView R]

variable {packets : List DataPacket} {rtBuffer : B} {rsBuffer : R} {s s' : System B R} {act : Action}
  {a e : SequenceNumber} {size : ℕ}

structure EndTaken (packets : List DataPacket) (s : System B R) : Prop where
  known : EndKnown packets s.history.rsAccepted s.receiver
  sent : s.AckAlive (lastNumber packets) →
    s.receiver.ackedEndOfTx = true ∨ s.receiver.ackThread = .sent (lastNumber packets)
  exited : s.receiver.ackThread = .exited → s.receiver.ackedEndOfTx = true

theorem Carried.ackAlive_of_step [ResequencingBuffer R] (hc : Carried packets s)
    (hend : ∀ sn ∈ s.transmitter.endOfTxSeqNum, sn = lastNumber packets) (hs : s.step act = some s')
    (halive : s'.AckAlive (lastNumber packets)) :
    s.AckAlive (lastNumber packets) ∨ s'.receiver.ackThread = .sent (lastNumber packets) := by
  cases System.step_steps hs with
  | transmits ht =>
    rcases halive with hacked | hflight | hhas
    · left
      cases ht with
      | @endAcked sn queue _ _ hqueue heq =>
        obtain rfl := hend sn heq.symm
        exact .inr (.inr (.inr (hqueue ▸ List.mem_cons_self)))
      | _ => exact .inl hacked
    · exact .inl (.inr (.inl hflight))
    · exact .inl (.inr (.inr (.of_transmits ht hhas)))
  | takesAcks ht =>
    refine .inl ?_
    rcases halive with hacked | hflight | hhas
    · cases ht <;> exact .inl hacked
    · exact .inr (.inl hflight)
    · exact .inr (.inr (.of_takesAcks ht hhas))
  | @txReceives i recvBuffer d t hd ht =>
    obtain ⟨b, rfl⟩ := hc.acks d (List.mem_of_getElem? hd)
    obtain rfl := Transmitter.receiveAck_htons b recvBuffer ht
    refine .inl ?_
    rcases halive with hacked | hflight | hpushing | hqueued
    · exact .inl hacked
    · exact .inr (.inl (List.mem_of_mem_eraseIdx hflight))
    · obtain rfl : b = lastNumber packets := by simpa using hpushing
      exact .inr (.inl (List.mem_of_getElem? hd))
    · exact .inr (.inr (.inr hqueued))
  | txTimesOut ht =>
    obtain rfl := Transmitter.receiveAck_none ht
    refine .inl ?_
    rcases halive with hacked | hflight | hpushing | hqueued
    · exact .inl hacked
    · exact .inr (.inl hflight)
    · cases hpushing
    · exact .inr (.inr (.inr hqueued))
  | sendsAcks hr =>
    rcases halive with hacked | hflight | hhas
    · exact .inl (.inl hacked)
    · rcases List.mem_append.mp hflight with hflight | hnew
      · exact .inl (.inr (.inl hflight))
      · right
        cases hr with
        | sending =>
          rw [Option.toList_some, List.mem_singleton] at hnew
          rw [htons_inj hnew]
        | _ => cases hnew
    · exact .inl (.inr (.inr hhas))
  | dropAck => exact .inl (halive.imp_right (Or.imp_left List.mem_of_mem_eraseIdx))
  | duplicateAck =>
    refine .inl (halive.imp_right (Or.imp_left (fun hflight => ?_)))
    rcases List.mem_append.mp hflight with hflight | hnew
    · exact hflight
    · exact List.mem_of_getElem? (Option.mem_toList.mp hnew)
  | _ => exact .inl halive

omit [RetransmissionBuffer B] [LawfulRetransmission B] in
theorem Transmittable.acked_lt (hp : Transmittable R packets size) (ho : Ordered s)
    (ha : s.HasAck (lastNumber packets)) :
    (lastNumber packets).toNat < frontier s.receiver.resequencingBuffer := by
  have hlast := hp.lastNumber_toNat
  have hshort := hp.short
  rcases ho.acks _ ha with hlt | ⟨-, hmax⟩
  · exact hlt
  · have hmax' : (65535 : UInt16).toNat = 65535 := rfl
    rw [hmax] at hlast
    omega

section Ends

variable (hp : Transmittable R packets size) (hc : Carried packets s)

include hp hc

theorem Transmittable.end_number (ha : EndNumber s.history.firstSent a) : a = lastNumber packets := by
  obtain ⟨i, hi, rfl⟩ := hc.end_number_eq hp.framed hp.ends ha
  rw [lastNumber, ← hi, Nat.add_sub_cancel]

theorem Transmittable.received_end {p : DataPacket} (h : Received s.history.firstSent p)
    (hend : p.isEndOfTx = true) : p.header.sequenceNumber = lastNumber packets := by
  obtain ⟨q, hq, hcopy⟩ := h
  obtain ⟨i, hi⟩ := List.getElem?_of_mem hq
  have hqend : q.isEndOfTx = true := by
    rw [← hend, DataPacket.isEndOfTx, DataPacket.isEndOfTx, hcopy.header_eq]
  rw [hcopy.header_eq, hc.sent_number hi]
  exact hp.end_number hc ⟨i, q, hi, hqend, rfl⟩

theorem Transmittable.sent_end {p : DataPacket}
    (h : s.history.firstSent[(lastNumber packets).toNat]? = some p) : p.isEndOfTx = true := by
  obtain ⟨p₀, hp₀, rfl⟩ := hc.sent_getElem? h
  rw [numbered_isEndOfTx, (hp.framed p₀ (List.mem_of_getElem? hp₀)).isEndOfTx_iff, hp.ends _ p₀ hp₀]
  exact hp.lastNumber_toNat

theorem Transmittable.endOfTxSeqNum_eq (h : s.history.firstSent.length = packets.length) :
    s.transmitter.endOfTxSeqNum = some (lastNumber packets) := by
  have hlast := hp.lastNumber_toNat
  obtain ⟨p, hget⟩ : ∃ p, s.history.firstSent[(lastNumber packets).toNat]? = some p :=
    ⟨_, List.getElem?_eq_getElem (by omega)⟩
  obtain ⟨sn, hsn⟩ := Option.isSome_iff_exists.mp
    (hc.tx.end_sent p (List.mem_of_getElem? hget) (hp.sent_end hc hget))
  rw [hsn, hp.end_number hc (hc.tx.end_number sn hsn)]

theorem Transmittable.endOfTxSn_eq (ho : Ordered s)
    (hknown : EndKnown packets s.history.rsAccepted s.receiver) (ha : s.HasAck (lastNumber packets)) :
    s.receiver.endOfTxSn = some (lastNumber packets) := by
  obtain ⟨p, hmem, hnumber⟩ := ho.rx.covered _ (hp.acked_lt ho ha)
  obtain ⟨q, hq, hcopy⟩ := (ho.rx.received p hmem).number (fun i p hp => hc.sent_number hp)
    (hc.sent_length_le hp.short)
  rw [hnumber] at hq
  refine hknown p (.inl hmem) ?_
  rw [← hp.sent_end hc hq, DataPacket.isEndOfTx, DataPacket.isEndOfTx, hcopy.header_eq]

theorem Transmittable.endTaken_step [ResequencingBuffer R] (ho : Ordered s) (h : EndTaken packets s)
    (hs : s.step act = some s') :
    EndTaken packets s' := by
  have hrx := System.RxStep.of_step hs
  have hend : ∀ sn ∈ s.transmitter.endOfTxSeqNum, sn = lastNumber packets :=
    fun sn hsn => hp.end_number hc (hc.tx.end_number sn hsn)
  refine ⟨?_, fun halive => ?_, fun hexited => ?_⟩
  · cases System.step_steps hs with
    | resequences hr =>
      exact h.known.resequences (fun p hpoint => hp.received_end hc (hc.rx.received p (.inl hpoint))) hr
    | rxReceives _ hr =>
      obtain ⟨-, point, rfl, hpoint⟩ := Receiver.receivePacket_point hr
      refine fun p hmem => h.known p (hmem.imp_right (fun hadding => ?_))
      rcases hpoint with rfl | ⟨q, rfl⟩ | ⟨fault, rfl⟩ <;> cases hadding
    | rxTimesOut hr =>
      obtain rfl := Receiver.receivePacket_none hr
      exact fun p hmem => h.known p (hmem.imp_right (fun hadding => by cases hadding))
    | sendsAcks hr => cases hr <;> exact h.known
    | _ => exact h.known
  · rcases hc.ackAlive_of_step hend hs halive with hold | hsent
    · rcases h.sent hold with hacked | hsent
      · exact .inl (hrx.ackedEndOfTx_mono hacked)
      · rcases hrx.ackThread_sent hsent with hsame | hacked
        · exact .inr hsame
        · left
          rw [hacked, hp.endOfTxSn_eq hc ho h.known (.inl (.inr (.inr (.inr hsent))))]
          simp
    · exact .inr hsent
  · rcases hrx.ackThread_exited hexited with hacked | hold
    · exact hrx.ackedEndOfTx_mono hacked
    · exact hrx.ackedEndOfTx_mono (h.exited hold)

end Ends

section Live

variable [LiveRetransmission B] {base : ℕ} {q : List TransmitBufferObject}

def System.released (s : System B R) : ℕ :=
  s.history.firstSent.length - (held s.transmitter.retransmissionBuffer).length

theorem Agreement.released_eq (h : Agreement size s base q) (ho : Ordered s) :
    s.released = base ∧ held s.transmitter.retransmissionBuffer = q := by
  have hheld := aligned_held h.aligned
  have hsent := h.sent_eq ho
  rw [System.released, hheld]
  exact ⟨by omega, rfl⟩

theorem Agreement.early_ignored (h : Agreement size s base q) (hp : Transmittable R packets size)
    (hc : Carried packets s) (ho : Ordered s) (hearly : early R) :
    RetransmissionBuffer.acknowledgePacket s.transmitter.retransmissionBuffer 65535 =
      .ok s.transmitter.retransmissionBuffer := by
  have hsent := h.sent_eq ho
  have hle := hc.sent_length_le_packets
  have hshort := hp.short_early hearly
  refine aligned_beyond h.aligned ?_
  rw [h.capacity_eq, show (65535 : UInt16).toNat = 65535 from rfl]
  omega

theorem Agreement.acked (hp : Transmittable R packets size) (h : Agreement size s base q) (hc : Carried packets s)
    (ho : Ordered s) {sn : SequenceNumber} {b : B} (hsn : s.HasAck sn) (hend : some sn ≠ s.transmitter.endOfTxSeqNum)
    (hack : RetransmissionBuffer.acknowledgePacket s.transmitter.retransmissionBuffer sn = .ok b) :
    ∃ k, Aligned b (base + k) (q.drop k) ∧ capacity b = size ∧
      (q.drop k).map TransmitBufferObject.packet = s.history.firstSent.drop (base + k) ∧
      base + k ≤ frontier s.receiver.resequencingBuffer ∧ (base < packets.length → base + k < packets.length) ∧
      (sn.toNat < frontier s.receiver.resequencingBuffer → sn.toNat < base + k) := by
  have hsent := h.sent_eq ho
  have hfrontier := ho.rx.frontier_le
  rcases ho.acks sn hsn with hlt | ⟨hearly, rfl⟩
  · obtain ⟨b', k, hack', hb, hk, hmax, hcapacity⟩ := aligned_acked h.aligned (a := sn) (by omega)
    obtain rfl := Except.ok.inj (hack.symm.trans hack')
    have hbase := h.base_le
    refine ⟨k, hb, hcapacity.trans h.capacity_eq, ?_, by omega, fun hle => ?_, fun _ => by omega⟩
    · rw [List.map_drop, h.packets_eq, List.drop_drop]
    · -- The number of the last packet would have been the end's number.
      have hlast := hp.lastNumber_toNat
      have hall := hc.sent_length_le_packets
      by_contra hge
      have heq : sn = lastNumber packets := UInt16.toNat_inj.mp (by omega)
      exact hend (heq ▸ (hp.endOfTxSeqNum_eq hc (by omega)).symm)
  · obtain rfl := Except.ok.inj (hack.symm.trans (h.early_ignored hp hc ho hearly))
    have hshort := hp.short
    have hall := hc.sent_length_le_packets
    have hmax : (65535 : UInt16).toNat = 65535 := rfl
    exact ⟨0, h.aligned, h.capacity_eq, h.packets_eq, h.base_le, id, fun hlt => by omega⟩

theorem Agreement.transmits_released (hp : Transmittable R packets size) (h : Agreement size s base q)
    (hc : Carried packets s) (ho : Ordered s) {now : Clock} {t : Transmitter B} {d : Option (List Byte)} {p : Option DataPacket}
    (ht : s.transmitter.Transmits now t d p) :
    ∃ base' q', Agreement size { s with
        transmitter := t
        dataChannel := s.dataChannel ++ d.toList
        history.firstSent := s.history.firstSent ++ p.toList } base' q' ∧ base ≤ base' ∧
      (t.endOfTxAcked = false → base < packets.length → base' < packets.length) := by
  have hroom := hc.sent_length_le hp.short
  cases ht with
  | retransmitted _ htry =>
    obtain ⟨q', hq', hcapacity, hpackets⟩ := h.tryGetPacketSpan htry
    exact ⟨base, q', ⟨hq', hcapacity, by simpa only [Option.toList_none, List.append_nil] using hpackets, h.base_le⟩,
      Nat.le_refl _, fun _ => id⟩
  | noneTimedOut _ htry =>
    obtain ⟨q', hq', hcapacity, hpackets⟩ := h.tryGetPacketSpan htry
    exact ⟨base, q', ⟨hq', hcapacity, by simpa only [Option.toList_none, List.append_nil] using hpackets, h.base_le⟩,
      Nat.le_refl _, fun _ => id⟩
  | sent _ hready hqueue hadd =>
    obtain ⟨hb, hcapacity, hpackets⟩ := h.addPacket hc ho (by omega) hready hqueue hadd
    exact ⟨base, _, ⟨hb, hcapacity, hpackets, h.base_le⟩, Nat.le_refl _, fun _ => id⟩
  | @sendFault newPkt queue fault _ hready hqueue hadd =>
    obtain ⟨q', hq', -⟩ := hc.tx.held
    obtain ⟨b, hadd', -⟩ := LawfulRetransmission.addPacket hq' hready newPkt
    cases hadd.symm.trans hadd'
  | @acked sn queue b _ _ hqueue hend hack =>
    obtain ⟨k, hb, hcapacity, hpackets, hle, hlt, -⟩ :=
      h.acked hp hc ho (.inr (.inr (.inr (hqueue ▸ List.mem_cons_self)))) hend hack
    exact ⟨base + k, _, ⟨hb, hcapacity, by simpa only [Option.toList_none, List.append_nil] using hpackets, hle⟩,
      Nat.le_add_right _ _, fun _ => hlt⟩
  | _ =>
    exact ⟨base, q, ⟨h.aligned, h.capacity_eq, by simpa only [Option.toList_none, List.append_nil] using h.packets_eq,
      h.base_le⟩, Nat.le_refl _, fun _ => id⟩

variable [ResequencingBuffer R] [LiveResequencing R]

/-- Everything that is known about a state from which the transmission is to be brought to its end; at least
the first `least` packets have been released. -/
structure Live (packets : List DataPacket) (size least : ℕ) (s : System B R) : Prop where
  carried : Carried packets s
  ordered : Ordered s
  finished : Finished packets s
  agreement : Agreement size s s.released (held s.transmitter.retransmissionBuffer)
  least_le : least ≤ s.released
  unacked : s.transmitter.endOfTxAcked = false → s.released < packets.length
  endAck : EndAckKept packets s
  endTaken : EndTaken packets s
  answers : Answers s.receiver.resequencingBuffer

theorem Live.answers_step {least : ℕ} (h : Live packets size least s) (hs : s.step act = some s') :
    Answers s'.receiver.resequencingBuffer := by
  rcases System.resequences_or_same hs with ⟨now, r, accepted, delivered, hr, rfl⟩ | hsame
  · cases hr with
    | added _ hadd => exact answers_addPacket h.ordered.rx.holds h.answers hadd
    | delivered _ hnext =>
      have hkept := answers_getNextPacket h.answers
      rwa [hnext] at hkept
    | drained _ hnext =>
      have hkept := answers_getNextPacket h.answers
      rwa [hnext] at hkept
    | _ => exact h.answers
  · exact hsame.resequencingBuffer ▸ h.answers

variable [LawfulResequencing R]

variable (hp : Transmittable R packets size)

include hp

theorem Live.agreement_step {least : ℕ} (h : Live packets size least s) (ho' : Ordered s')
    (hs : s.step act = some s') :
    Agreement size s' s'.released (held s'.transmitter.retransmissionBuffer) ∧ s.released ≤ s'.released ∧
      (s'.transmitter.endOfTxAcked = false → s'.released < packets.length) := by
  have hmono := (h.carried.rx_step hp.short h.ordered hs).2
  obtain ⟨base', q', hagree, hle, hlt⟩ : ∃ base' q', Agreement size s' base' q' ∧ s.released ≤ base' ∧
      (s'.transmitter.endOfTxAcked = false → base' < packets.length) := by
    rcases System.transmits_or_same hs with ⟨now, t, d, p, rfl, ht, rfl⟩ | hsame
    · obtain ⟨base', q', hagree, hle, hlt⟩ := h.agreement.transmits_released hp h.carried h.ordered ht
      refine ⟨base', q', hagree, hle, fun hacked => hlt hacked (h.unacked ?_)⟩
      cases hold : s.transmitter.endOfTxAcked with
      | false => rfl
      | true =>
        have hkept := System.TxStep.endOfTxAcked_mono (.of_step hs) hold
        rw [hkept] at hacked
        cases hacked
    · exact ⟨s.released, held s.transmitter.retransmissionBuffer, ⟨hsame.retransmissionBuffer ▸ h.agreement.aligned,
        hsame.retransmissionBuffer ▸ h.agreement.capacity_eq, hsame.firstSent ▸ h.agreement.packets_eq,
        Nat.le_trans h.agreement.base_le hmono⟩, Nat.le_refl _, hsame.endOfTxAcked ▸ h.unacked⟩
  obtain ⟨hbase, hheld⟩ := hagree.released_eq ho'
  rw [hbase, hheld]
  exact ⟨hagree, hle, hlt⟩

theorem Live.step {least : ℕ} (h : Live packets size least s) (hkeeps : s.KeepsEndAck act)
    (hs : s.step act = some s') : Live packets size least s' := by
  have hc' := h.carried.step hp.framed hs
  have ho' := h.carried.ordered_step hp.short h.ordered hs
  obtain ⟨hagree, hle, hlt⟩ := h.agreement_step hp ho' hs
  exact {
    carried := hc'
    ordered := ho'
    finished := h.carried.finished_step hp.framed hp.short hp.ends h.ordered h.finished hs
    agreement := hagree
    least_le := Nat.le_trans h.least_le hle
    unacked := hlt
    endAck := h.carried.endAckKept_step hc' (hp.ends.endsOnce hp.framed) (fun _ => h.ordered) h.endAck hkeeps
      (.inl hp.short) hs
    endTaken := hp.endTaken_step h.carried h.ordered h.endTaken hs
    answers := h.answers_step hs }

end Live

end ArqBenchmark
