import ArqBenchmark.ThreadRuns
import Mathlib.Data.Prod.Lex

namespace ArqBenchmark

open ResequencingView DataPacket LawfulRetransmission LiveRetransmission LiveResequencing

namespace System

variable {B R : Type}

def Acked (s : System B R) : Prop := s.transmitter.endOfTxAcked = true ∨ s.receiver.ackedEndOfTx = true

structure Idle (s : System B R) : Prop where
  resequencing : s.receiver.resequencingThread = .loop
  rxAcks : s.receiver.ackThread = .loop ∧ s.receiver.ackQueue = []
  txAcks : s.transmitter.ackThread = .loop
  transmit : s.transmitter.transmitThread = .attemptPacketRetransmission ∧ s.transmitter.ackQueue = []

structure Offers (s : System B R) (i : ℕ) : Prop where
  resequencing : s.receiver.resequencingThread = .loop
  rxAcks : s.receiver.ackThread = .loop ∧ s.receiver.ackQueue = []
  txAcks : s.transmitter.ackThread = .loop
  transmit : s.transmitter.transmitThread = .processAckQueue ∧ s.transmitter.ackQueue = []
  packet : ∃ p, s.history.firstSent[i]? = some p ∧ p.data ∈ s.dataChannel

structure Completed (packets : List DataPacket) (s : System B R) : Prop where
  transmitter : s.transmitter.transmitThread = .exited ∧ s.transmitter.ackThread = .exited
  receiver : s.receiver.resequencingThread = .exited ∧ s.receiver.ackThread = .exited
  delivered : s.history.obAccepted.map contents = (outgoing packets).map contents

end System

variable {B R : Type} [RetransmissionBuffer B] [LawfulRetransmission B] [ResequencingBuffer R]
  [ResequencingView R] [LawfulResequencing R] [LiveRetransmission B] [LiveResequencing R]

variable {packets : List DataPacket} {s s' : System B R} {act : Action} {a e : SequenceNumber}
  {size least : ℕ} (hp : Transmittable R packets size)

include hp

theorem Live.idles (h : Live packets size least s) :
    s.CanReach fun t => Live packets size least t ∧ (t.Acked ∨ t.Idle) := by
  refine (h.resequencing_rests hp).bind ?_
  rintro t ⟨ht, -, hloop | hexited⟩
  · refine (ht.acks_rest hp).bind ?_
    rintro u ⟨hu, hresequencing, ⟨hacks, hqueue⟩ | hexited⟩
    · refine (hu.txAcks_rest hp).bind ?_
      rintro v ⟨hv, hreceiver, -, htxLoop | hexited⟩
      · refine (hv.transmit_rests hp).mono ?_
        rintro w ⟨hw, hothers, hacked | ⟨hattempt, hempty, -⟩⟩
        · exact ⟨hw, .inl (.inl hacked)⟩
        · refine ⟨hw, .inr ⟨?_, ?_, hothers.ackThread.trans htxLoop, hattempt, hempty⟩⟩
          · rw [hothers.receiver, hreceiver, hresequencing.thread, hloop]
          · rw [hothers.receiver, hreceiver]
            exact ⟨hacks, hqueue⟩
      · exact .here ⟨hv, .inl (.inl (hv.endAck.runs.ack hexited))⟩
    · exact .here ⟨hu, .inl (.inr (hu.endTaken.exited hexited))⟩
  · exact .here ⟨ht, .inl (.inr (ht.finished.exited hexited))⟩

theorem Live.retransmits (h : Live packets size least s) (hidle : s.Idle) {o : TransmitBufferObject}
    {q : List TransmitBufferObject} (hheld : held s.transmitter.retransmissionBuffer = o :: q) :
    s.CanReach fun t => Live packets size least t ∧ t.receiver = s.receiver ∧
      t.transmitter.endOfTxAcked = s.transmitter.endOfTxAcked ∧ t.Offers s.released := by
  have haligned := h.agreement.aligned
  rw [hheld] at haligned
  refine .of_step_at .transmitThread (fun _ => trivial) (fun _ => rfl) (fun T => ?_)
  obtain ⟨T', b, hle, htry⟩ := aligned_overdue haligned T
  have hstep : s.transmitter.transmitStep (fun _ => T') = some ({ s.transmitter with
      retransmissionBuffer := b, transmitThread := .processAckQueue }, some o.packet.getReadSpan, none) := by
    simp only [Transmitter.transmitStep, hidle.transmit.1, Transmitter.attemptPacketRetransmission, htry]
  have hs := System.step_transmitThread hstep
  have hpacket : s.history.firstSent[s.released]? = some o.packet := by
    rw [← List.head?_drop, ← h.agreement.packets_eq, hheld]
    rfl
  refine ⟨T', hle, _, hs, .here ⟨h.next hp hs trivial, rfl, rfl, hidle.resequencing, hidle.rxAcks, hidle.txAcks,
    ⟨rfl, hidle.transmit.2⟩, o.packet, ?_, ?_⟩⟩
  · exact (congrArg (·[s.released]?) (List.append_nil _)).trans hpacket
  · exact List.mem_append_right _ (List.mem_singleton_self _)

theorem Live.has_input (h : Live packets size least s)
    (hsent : s.history.firstSent.length < packets.length) :
    s.CanReach fun t => Live packets size least t ∧ t.receiver = s.receiver ∧
      t.history.firstSent = s.history.firstSent ∧
      t.transmitter = { s.transmitter with inputBuffer := t.transmitter.inputBuffer } ∧
      t.transmitter.inputBuffer.inputPackets ≠ [] := by
  cases hinput : s.transmitter.inputBuffer.inputPackets with
  | cons o queue => exact .here ⟨h, rfl, rfl, rfl, by rw [hinput]; exact List.cons_ne_nil _ _⟩
  | nil =>
    have hsubmitted := congrArg List.length h.carried.submitted
    have hqueued := congrArg List.length h.carried.tx.queued
    rw [hinput, List.map_nil, List.append_nil, outgoing_length] at hqueued
    rw [List.length_append] at hsubmitted
    cases hsubmit : s.toSubmit with
    | nil =>
      rw [hsubmit, List.length_nil] at hsubmitted
      omega
    | cons p rest =>
      have hframed : p.Framed := hp.framed p (by rw [← h.carried.submitted, hsubmit]; simp)
      refine .of_step_now .sendPacket (fun _ => trivial) (fun _ => rfl) (fun T => ?_)
      obtain ⟨inputBuffer, hadd, hne⟩ : ∃ b, s.transmitter.inputBuffer.addPacket (fun _ => T) p = .ok b ∧
          b.inputPackets ≠ [] := ⟨_, InputBuffer.addPacket_eq hframed _, by simp⟩
      have hs : s.step (.sendPacket fun _ => T) = some { s with
          toSubmit := rest
          transmitter := { s.transmitter with inputBuffer := inputBuffer }
          history.submitted := s.history.submitted ++ [p] } := by
        simp only [System.step, System.sendPacket, hsubmit, Transmitter.sendPacket, hadd, Loops.ok_bind]
        rfl
      exact ⟨_, hs, .here ⟨h.next hp hs trivial, rfl, rfl, rfl, hne⟩⟩

theorem Live.holds_none (h : Live packets size least s)
    (hpoint : s.transmitter.transmitThread = .attemptPacketRetransmission)
    (hheld : held s.transmitter.retransmissionBuffer = []) :
    s.CanReach fun t => Live packets size least t ∧ t.receiver = s.receiver ∧
      t.history.firstSent = s.history.firstSent ∧
      t.transmitter = { s.transmitter with transmitThread := .attemptNewPacketTransmission } := by
  have haligned := h.agreement.aligned
  rw [hheld] at haligned
  refine .of_step_now .transmitThread (fun _ => trivial) (fun _ => rfl) (fun T => ?_)
  have hstep : s.transmitter.transmitStep (fun _ => T) =
      some ({ s.transmitter with transmitThread := .attemptNewPacketTransmission }, none, none) := by
    simp only [Transmitter.transmitStep, hpoint, Transmitter.attemptPacketRetransmission, aligned_idle haligned]
  have hs := System.step_transmitThread hstep
  exact ⟨_, hs, .here ⟨h.next hp hs trivial, rfl, List.append_nil _, rfl⟩⟩

theorem Live.sends_new (h : Live packets size least s)
    (hpoint : s.transmitter.transmitThread = .attemptNewPacketTransmission)
    (hheld : held s.transmitter.retransmissionBuffer = [])
    (hinput : s.transmitter.inputBuffer.inputPackets ≠ []) :
    s.CanReach fun t => Live packets size least t ∧ t.receiver = s.receiver ∧
      t.transmitter.endOfTxAcked = s.transmitter.endOfTxAcked ∧
      t.transmitter.ackThread = s.transmitter.ackThread ∧ t.transmitter.ackQueue = s.transmitter.ackQueue ∧
      t.transmitter.transmitThread = .processAckQueue ∧
      ∃ p, t.history.firstSent = s.history.firstSent ++ [p] ∧ p.data ∈ t.dataChannel := by
  have haligned := h.agreement.aligned
  rw [hheld] at haligned
  have hready : RetransmissionBuffer.readyForNewPacket s.transmitter.retransmissionBuffer = true :=
    aligned_ready haligned (by rw [h.agreement.capacity_eq]; exact hp.size_pos)
  obtain ⟨newPkt, queue, hqueue⟩ := List.exists_cons_of_ne_nil hinput
  obtain ⟨q, hholds, -⟩ := h.carried.tx.held
  obtain ⟨b, hadd, -⟩ := LawfulRetransmission.addPacket hholds hready newPkt
  refine .of_step_now .transmitThread (fun _ => trivial) (fun _ => rfl) (fun T => ?_)
  have hstep : s.transmitter.transmitStep (fun _ => T) = some ({ s.transmitter with
      inputBuffer := { s.transmitter.inputBuffer with inputPackets := queue }
      endOfTxSeqNum := if newPkt.isEndOfTx then some newPkt.info.sequenceNumber else s.transmitter.endOfTxSeqNum
      retransmissionBuffer := b
      transmitThread := .processAckQueue }, some newPkt.packet.getReadSpan, some newPkt.packet) := by
    simp only [Transmitter.transmitStep, hpoint, Transmitter.attemptNewPacketTransmission, hready, Bool.not_true,
      Bool.false_eq_true, ↓reduceIte, InputBuffer.tryGetPacket, hqueue, SafeQueue.tryPop, hadd, Option.map_some]
  have hs := System.step_transmitThread hstep
  exact ⟨_, hs, .here ⟨h.next hp hs trivial, rfl, rfl, rfl, rfl, rfl, newPkt.packet, rfl,
    List.mem_append_right _ (List.mem_singleton_self _)⟩⟩

theorem Live.offers_new (h : Live packets size least s) (hidle : s.Idle)
    (hacked : s.transmitter.endOfTxAcked = false) (hheld : held s.transmitter.retransmissionBuffer = []) :
    s.CanReach fun t => Live packets size least t ∧ t.receiver = s.receiver ∧
      t.transmitter.endOfTxAcked = s.transmitter.endOfTxAcked ∧ t.Offers s.released := by
  have hreleased : s.released = s.history.firstSent.length := by
    rw [System.released, hheld, List.length_nil, Nat.sub_zero]
  have hroom := h.unacked hacked
  rw [hreleased] at hroom
  refine (h.has_input hp hroom).bind ?_
  rintro t ⟨ht, hreceiver, hfirst, htransmitter, hinput⟩
  have hpoint : t.transmitter.transmitThread = .attemptPacketRetransmission := by
    rw [htransmitter]
    exact hidle.transmit.1
  refine (ht.holds_none hp hpoint (by rw [htransmitter, hheld])).bind ?_
  rintro u ⟨hu, hreceiver', hfirst', htransmitter'⟩
  refine (hu.sends_new hp (by rw [htransmitter']) (by rw [htransmitter', htransmitter, hheld])
    (by rw [htransmitter']; exact hinput)).mono ?_
  rintro v ⟨hv, hreceiver'', hended, hackThread, hackQueue, hprocess, p, hsent, hflight⟩
  have hsame : v.receiver = s.receiver := hreceiver''.trans (hreceiver'.trans hreceiver)
  refine ⟨hv, hsame, ?_, hsame ▸ hidle.resequencing, hsame ▸ hidle.rxAcks, ?_, ⟨hprocess, ?_⟩, p, ?_, hflight⟩
  · rw [hended, htransmitter', htransmitter]
  · rw [hackThread, htransmitter', htransmitter]
    exact hidle.txAcks
  · rw [hackQueue, htransmitter', htransmitter]
    exact hidle.transmit.2
  · rw [hsent, hfirst', hfirst, hreleased]
    simp

theorem Live.offers (h : Live packets size least s) (hidle : s.Idle)
    (hacked : s.transmitter.endOfTxAcked = false) :
    s.CanReach fun t => Live packets size least t ∧ t.receiver = s.receiver ∧
      t.transmitter.endOfTxAcked = s.transmitter.endOfTxAcked ∧ t.Offers s.released := by
  cases hheld : held s.transmitter.retransmissionBuffer with
  | nil => exact h.offers_new hp hidle hacked hheld
  | cons o q => exact h.retransmits hp hidle hheld

theorem Live.waits_for_datagram (h : Live packets size least s)
    (hpoint : s.receiver.resequencingThread = .loop) (hacked : s.receiver.ackedEndOfTx = false) :
    s.CanReach fun t => Live packets size least t ∧ s.RxAckIdle t ∧ t.dataChannel = s.dataChannel ∧
      t.history.firstSent = s.history.firstSent ∧
      t.receiver = { s.receiver with resequencingThread := .receiving } := by
  refine .of_step_now .resequencingThread (fun _ => trivial) (fun _ => rfl) (fun T => ?_)
  have hstep : s.receiver.resequencingStep (fun _ => T) =
      some ({ s.receiver with resequencingThread := .receiving }, none, none) := by
    simp [Receiver.resequencingStep, hpoint, hacked]
  have hs := System.step_resequencingThread hstep
  exact ⟨_, hs, .here ⟨h.next hp hs trivial, ⟨rfl, rfl, rfl, rfl⟩, rfl, rfl, rfl⟩⟩

theorem Live.takes_datagram (h : Live packets size least s) (hpoint : s.receiver.resequencingThread = .receiving)
    {q : DataPacket} (hq : q ∈ s.history.firstSent) (hflight : q.data ∈ s.dataChannel) :
    s.CanReach fun t => Live packets size least t ∧ s.RxAckIdle t ∧
      t.receiver.ackQueue = s.receiver.ackQueue ∧
      t.receiver.resequencingBuffer = s.receiver.resequencingBuffer ∧
      ∃ p, p.IsCopy q ∧ t.receiver.resequencingThread = .adding p ∧
        t.history.firstSent = s.history.firstSent := by
  obtain ⟨i, hi⟩ := List.getElem?_of_mem hflight
  obtain ⟨r, hr⟩ : ∃ r, s.receiver.receivePacket (some (receiveInto q.data emptyReceiveBuffer)) = some r := by
    simp only [Receiver.receivePacket, hpoint]
    split
    · exact ⟨_, rfl⟩
    · split <;> exact ⟨_, rfl⟩
  have hs : s.step (.rxReceive i emptyReceiveBuffer) = some { s with
      receiver := r, dataChannel := s.dataChannel.eraseIdx i } := by
    simp only [System.step, System.rxReceive, hi, hr, Option.map_some]
  have h' := h.next hp hs trivial
  obtain ⟨p, hcopy, rfl⟩ := Receiver.receivePacket_copy (h.carried.framed hp.framed hq) emptyReceiveBuffer hr
  refine .of_step hs trivial rfl ((h'.receives hp rfl).mono ?_)
  rintro t ⟨ht, hidle, hadding, hqueue, hbuffer, hsent⟩
  exact ⟨ht, ⟨hidle.transmitter, hidle.ackChannel, hidle.ackThread, hidle.ackedEndOfTx⟩, hqueue, hbuffer, p, hcopy,
    hadding, hsent⟩

/-- An ACK for packet `i`, or, when the resequencing buffer owes less than `owed`, any ACK. -/
def Advances (i owed : ℕ) (a : SequenceNumber) (r : R) : Prop :=
  i ≤ a.toNat ∧ a.toNat < 65535 ∨ debt r < owed

omit [LawfulResequencing R] in
omit hp in
theorem Live.answer (h : Live packets size least s) (hn : packets.length < 65536) {p q : DataPacket}
    {i : ℕ} (hq : s.history.firstSent[i]? = some q) (hcopy : p.IsCopy q) (hi : i ≤ s.released)
    (hempty : pending s.receiver.resequencingBuffer = []) {ack : Option SequenceNumber} {b : R}
    (hadd : ResequencingBuffer.addPacket s.receiver.resequencingBuffer p = .ok (ack, b)) :
    ∃ a, ack = some a ∧ Advances i (debt s.receiver.resequencingBuffer) a b := by
  have hlen := h.carried.sent_length_le hn
  have hlt : i < s.history.firstSent.length := (List.getElem?_eq_some_iff.mp hq).1
  have hnumber : p.header.sequenceNumber.toNat = i := by
    rw [hcopy.header_eq, h.carried.sent_number hq, toNat_ofNat_of_lt (by omega)]
  have hle : i ≤ frontier s.receiver.resequencingBuffer := Nat.le_trans hi h.agreement.base_le
  rcases Nat.lt_or_eq_of_le hle with hold | hexpected
  · obtain ⟨a, rfl, hge, hmax⟩ := addPacket_old h.ordered.rx.holds h.answers hempty (hnumber.trans_lt hold) hadd
    exact ⟨a, rfl, .inl ⟨hnumber ▸ hge, hmax⟩⟩
  · have hbound : ∀ x, x = p ∨ x ∈ window s.receiver.resequencingBuffer →
        x.header.sequenceNumber.toNat < 65535 := by
      rintro x (rfl | hx)
      · omega
      · have hstored := (h.ordered.rx.stored x (.inl hx)).1.number_lt (fun i p hp => h.carried.sent_number hp) hlen
        omega
    obtain ⟨a, rfl, hadvances⟩ := addPacket_expected h.ordered.rx.holds h.answers hempty
      (hnumber.trans hexpected) hbound hadd
    rw [hnumber] at hadvances
    exact ⟨a, rfl, hadvances⟩

theorem Live.transports (h : Live packets size least s) {i owed : ℕ}
    (hpushing : s.receiver.resequencingThread = .pushing a)
    (hrx : s.receiver.ackThread = .loop ∧ s.receiver.ackQueue = [] ∧ s.receiver.ackedEndOfTx = false)
    (htx : s.transmitter.ackThread = .loop ∧ s.transmitter.ackQueue = [] ∧
      s.transmitter.transmitThread = .processAckQueue ∧ s.transmitter.endOfTxAcked = false)
    (ha : Advances i owed a s.receiver.resequencingBuffer) :
    s.CanReach fun t => Live packets size least t ∧
      (t.Acked ∨ t.Idle ∧ (i < t.released ∨ debt t.receiver.resequencingBuffer < owed)) := by
  obtain ⟨hrxLoop, hrxQueue, hrxAcked⟩ := hrx
  obtain ⟨htxLoop, htxQueue, hprocess, htxAcked⟩ := htx
  refine (h.pushes hp hpushing).bind ?_
  rintro t ⟨ht, hidle, hloop, hqueue, hdebt⟩
  rw [hrxQueue, List.nil_append] at hqueue
  refine (ht.sends_first hp (hidle.ackThread.trans hrxLoop) (hidle.ackedEndOfTx.trans hrxAcked) hqueue).bind ?_
  rintro u ⟨hu, hresequencing, hrxLoop', hempty, hflight⟩
  have htransmitter : u.transmitter = s.transmitter := hresequencing.transmitter.trans hidle.transmitter
  refine (hu.takes_ack hp (htransmitter ▸ htxLoop) (htransmitter ▸ htxAcked) hflight).bind ?_
  rintro v ⟨hv, hreceiver, htransmitter'⟩
  rw [htransmitter, htxQueue, List.nil_append] at htransmitter'
  refine (hv.releases hp (a := a) (by rw [htransmitter', htxAcked]) (by rw [htransmitter', hprocess])
    (by rw [htransmitter'])).mono ?_
  rintro w ⟨hw, hothers, hacked | ⟨hattempt, hnone, hreleased⟩⟩
  · exact ⟨hw, .inl (.inl hacked)⟩
  · refine ⟨hw, .inr ⟨⟨?_, ?_, ?_, hattempt, hnone⟩, ha.imp ?_ ?_⟩⟩
    · rw [hothers.receiver, hreceiver, hresequencing.thread, hloop]
    · rw [hothers.receiver, hreceiver]
      exact ⟨hrxLoop', hempty⟩
    · rw [hothers.ackThread, htransmitter', htxLoop]
    · rintro ⟨hle, hmax⟩
      exact Nat.lt_of_le_of_lt hle (hreleased hmax)
    · intro hlt
      rwa [hothers.receiver, hreceiver, hresequencing.buffer, hdebt]

theorem Live.exchanges (h : Live packets size s.released s) (hidle : s.Idle) (hacked : ¬ s.Acked) :
    s.CanReach fun t => Live packets size s.released t ∧ (t.Acked ∨ t.Idle ∧
      (s.released < t.released ∨
        debt t.receiver.resequencingBuffer < debt s.receiver.resequencingBuffer)) := by
  obtain ⟨htxAcked, hrxAcked⟩ := not_or.mp hacked
  have htxAcked' := Bool.eq_false_iff.mpr htxAcked
  have hrxAcked' := Bool.eq_false_iff.mpr hrxAcked
  refine (h.offers hp hidle htxAcked').bind ?_
  rintro t ⟨ht, hreceiver, hended, hloop, ⟨hrxLoop, hrxQueue⟩, htxLoop, ⟨hprocess, htxQueue⟩, q, hq, hflight⟩
  have hempty := ht.ordered.rx.waits (.inl hloop)
  refine (ht.waits_for_datagram hp hloop (hreceiver ▸ hrxAcked')).bind ?_
  rintro u ⟨hu, hidle₁, hdata, hsent₁, hwaiting⟩
  refine (hu.takes_datagram hp (by rw [hwaiting]) (hsent₁ ▸ List.mem_of_getElem? hq) (hdata ▸ hflight)).bind ?_
  rintro v ⟨hv, hidle₂, hqueue₂, hbuffer₂, p, hcopy, hadding, hsent₂⟩
  have hbuffer : v.receiver.resequencingBuffer = s.receiver.resequencingBuffer := by
    rw [hbuffer₂, hwaiting, hreceiver]
  refine .of_step_now .resequencingThread (fun _ => trivial) (fun _ => rfl) (fun T => ?_)
  obtain ⟨ack, b, w, hadd, hs, hw, hidle₃, hpoint, hqueue₃, rfl⟩ := hv.adds hp hadding T
  obtain ⟨a, rfl, ha⟩ := hv.answer hp.short (by rw [hsent₂, hsent₁, hq]) hcopy hv.least_le
    (by rw [hbuffer, ← hreceiver]; exact hempty) hadd
  have hkept := (hidle₁.trans hidle₂).trans hidle₃
  refine ⟨w, hs, ?_⟩
  rw [hbuffer] at ha
  refine hw.transports hp hpoint ⟨hkept.ackThread.trans hrxLoop, ?_, ?_⟩ ?_ ha
  · rw [hqueue₃, hqueue₂, hwaiting, hrxQueue]
  · rw [hkept.ackedEndOfTx, hreceiver, hrxAcked']
  · rw [hkept.transmitter]
    exact ⟨htxLoop, htxQueue, hprocess, hended.trans htxAcked'⟩

theorem Live.gets_acked (h : Live packets size least s) :
    s.CanReach fun t => Live packets size 0 t ∧ t.Acked := by
  have hlow : ∀ {least : ℕ} {s : System B R}, Live packets size least s → Live packets size 0 s :=
    fun h => { h with least_le := Nat.zero_le _ }
  refine (h.idles hp).bind ?_
  rintro t ⟨ht, hacked | hidle⟩
  · exact .here ⟨hlow ht, hacked⟩
  refine System.CanReach.of_measure (P := fun s => Live packets size 0 s ∧ s.Idle)
    (m := fun s => toLex (packets.length - s.released, debt s.receiver.resequencingBuffer)) ?_ ⟨hlow ht, hidle⟩
  rintro u ⟨hu, hidle⟩
  by_cases hacked : u.Acked
  · exact .here (.inl ⟨hu, hacked⟩)
  · have hroom := hu.unacked (Bool.eq_false_iff.mpr (not_or.mp hacked).1)
    have hexchange : Live packets size u.released u := { hu with least_le := Nat.le_refl _ }
    refine (hexchange.exchanges hp hidle hacked).mono ?_
    rintro v ⟨hv, hdone | ⟨hidle', hless⟩⟩
    · exact .inl ⟨hlow hv, hdone⟩
    · refine .inr ⟨⟨hlow hv, hidle'⟩, Prod.Lex.toLex_lt_toLex.mpr ?_⟩
      have hle := hv.least_le
      change packets.length - v.released < packets.length - u.released ∨
        packets.length - v.released = packets.length - u.released ∧
          debt v.receiver.resequencingBuffer < debt u.receiver.resequencingBuffer
      rcases hless with hlt | hdebt
      · exact .inl (by omega)
      · rcases Nat.lt_or_eq_of_le hle with hlt | heq
        · exact .inl (by omega)
        · exact .inr ⟨by rw [heq], hdebt⟩

theorem Live.takes_last_ack (h : Live packets size least s) (hacked : s.receiver.ackedEndOfTx = true) :
    s.CanReach fun t => Live packets size least t ∧ t.transmitter.endOfTxAcked = true ∧
      t.receiver.ackedEndOfTx = true := by
  refine (h.txAcks_rest hp).bind ?_
  rintro t ⟨ht, hreceiver, -, hloop | hexited⟩
  · refine (ht.transmit_rests hp).bind ?_
    rintro u ⟨hu, hothers, hended | ⟨-, hempty, -⟩⟩
    · exact .here ⟨hu, hended, by rw [hothers.receiver, hreceiver, hacked]⟩
    · have hacked' : u.receiver.ackedEndOfTx = true := by rw [hothers.receiver, hreceiver, hacked]
      have hloop' := hothers.ackThread.trans hloop
      obtain ⟨e, he, halive⟩ := hu.endAck.acked hacked'
      obtain rfl := hp.end_number hu.carried (hu.carried.rx.end_number e he)
      rcases halive with hended | hflight | hpushing | hqueued
      · exact .here ⟨hu, hended, hacked'⟩
      · by_cases hended : u.transmitter.endOfTxAcked = true
        · exact .here ⟨hu, hended, hacked'⟩
        · refine (hu.takes_ack hp hloop' (Bool.eq_false_iff.mpr hended) hflight).bind ?_
          rintro v ⟨hv, hreceiver', htransmitter⟩
          refine (hv.transmit_rests hp).mono ?_
          rintro w ⟨hw, hothers', hended | ⟨-, -, hnot⟩⟩
          · exact ⟨hw, hended, by rw [hothers'.receiver, hreceiver', hacked']⟩
          · refine absurd ?_ hnot
            rw [htransmitter]
            exact List.mem_append_right _ (List.mem_singleton_self _)
      · cases hloop'.symm.trans hpushing
      · rw [hempty] at hqueued
        cases hqueued
  · exact .here ⟨ht, ht.endAck.runs.ack hexited, by rw [hreceiver, hacked]⟩

theorem Live.both_acked (h : Live packets size least s) (hacked : s.Acked) :
    s.CanReach fun t => Live packets size least t ∧ t.transmitter.endOfTxAcked = true ∧
      t.receiver.ackedEndOfTx = true := by
  rcases hacked with hended | hacked
  · rcases h.endTaken.sent (.inl hended) with hacked | hsent
    · exact .here ⟨h, hended, hacked⟩
    · have hknown := hp.endOfTxSn_eq h.carried h.ordered h.endTaken.known (.inl (.inr (.inr (.inr hsent))))
      have hstep : s.receiver.ackThreadStep = some ({ s.receiver with
          ackedEndOfTx := s.receiver.ackedEndOfTx || s.receiver.endOfTxSn == some (lastNumber packets)
          ackThread := .loop }, none) := by
        simp only [Receiver.ackThreadStep, hsent]
      have hs := System.step_rxAckThread hstep
      refine .of_step hs trivial rfl (.here ⟨h.next hp hs trivial, hended, ?_⟩)
      simp [hknown]
  · exact h.takes_last_ack hp hacked

theorem Live.receiver_exits (h : Live packets size least s) (hacked : s.receiver.ackedEndOfTx = true) :
    s.CanReach fun t => Live packets size least t ∧ t.transmitter = s.transmitter ∧
      t.receiver.resequencingThread = .exited ∧ t.receiver.ackThread = .exited := by
  have hacks : ∀ {s : System B R}, Live packets size least s → s.receiver.resequencingThread = .exited →
      s.CanReach fun t => Live packets size least t ∧ t.transmitter = s.transmitter ∧
        t.receiver.resequencingThread = .exited ∧ t.receiver.ackThread = .exited := by
    intro s h hexited
    refine (h.acks_rest hp).bind ?_
    rintro t ⟨ht, hidle, ⟨hloop, -⟩ | hdone⟩
    · have hexited' := hidle.thread.trans hexited
      have hstep : t.receiver.ackThreadStep = some ({ t.receiver with ackThread := .exited }, none) := by
        simp [Receiver.ackThreadStep, hloop, ht.finished.exited hexited']
      have hs := System.step_rxAckThread hstep
      exact .of_step hs trivial rfl (.here ⟨ht.next hp hs trivial, hidle.transmitter, hexited', rfl⟩)
    · exact .here ⟨ht, hidle.transmitter, hidle.thread.trans hexited, hdone⟩
  refine (h.resequencing_rests hp).bind ?_
  rintro t ⟨ht, hidle, hloop | hexited⟩
  · refine .of_step_now .resequencingThread (fun _ => trivial) (fun _ => rfl) (fun T => ?_)
    have hstep : t.receiver.resequencingStep (fun _ => T) =
        some ({ t.receiver with resequencingThread := .exited }, none, none) := by
      simp [Receiver.resequencingStep, hloop, hidle.ackedEndOfTx.trans hacked]
    have hs := System.step_resequencingThread hstep
    refine ⟨_, hs, (hacks (ht.next hp hs trivial) rfl).mono (fun u hu => ?_)⟩
    exact ⟨hu.1, hu.2.1.trans hidle.transmitter, hu.2.2⟩
  · exact (hacks ht hexited).mono (fun u hu => ⟨hu.1, hu.2.1.trans hidle.transmitter, hu.2.2⟩)

theorem Live.transmitter_exits (h : Live packets size least s) (hended : s.transmitter.endOfTxAcked = true) :
    s.CanReach fun t => Live packets size least t ∧ t.receiver = s.receiver ∧
      t.transmitter.transmitThread = .exited ∧ t.transmitter.ackThread = .exited := by
  have htransmit : ∀ {s : System B R}, Live packets size least s → s.transmitter.endOfTxAcked = true →
      s.transmitter.ackThread = .exited → s.CanReach fun t => Live packets size least t ∧
        t.receiver = s.receiver ∧ t.transmitter.transmitThread = .exited ∧ t.transmitter.ackThread = .exited := by
    intro s h hended hexited
    by_cases hdone : s.transmitter.transmitThread = .exited
    · exact .here ⟨h, rfl, hdone, hexited⟩
    · refine (h.reaches_queue hp hdone).bind ?_
      rintro t ⟨ht, hothers, hpoint, -, hsame⟩
      refine .of_step_now .transmitThread (fun _ => trivial) (fun _ => rfl) (fun T => ?_)
      obtain ⟨u, d, p, hs, htransmits, hu, hothers', -⟩ := ht.transmits hp (by rw [hpoint]; decide) fun _ => T
      have hall := hothers.trans hothers'
      exact ⟨u, hs, .here ⟨hu, hall.receiver, htransmits.exits hpoint (hsame.trans hended),
        hall.ackThread.trans hexited⟩⟩
  refine (h.txAcks_rest hp).bind ?_
  rintro t ⟨ht, hreceiver, hsame, hloop | hexited⟩
  · have hstep : t.transmitter.ackThreadStep = some { t.transmitter with ackThread := .exited } := by
      simp [Transmitter.ackThreadStep, hloop, hsame.trans hended]
    have hs := System.step_txAckThread hstep
    refine .of_step hs trivial rfl ((htransmit (ht.next hp hs trivial) (hsame.trans hended) rfl).mono ?_)
    exact fun u hu => ⟨hu.1, hu.2.1.trans hreceiver, hu.2.2⟩
  · exact (htransmit ht (hsame.trans hended) hexited).mono (fun u hu => ⟨hu.1, hu.2.1.trans hreceiver, hu.2.2⟩)

theorem Live.delivered (h : Live packets size least s)
    (hexited : s.receiver.resequencingThread = .exited) :
    s.history.obAccepted.map contents = (outgoing packets).map contents := by
  have hall := h.finished.acked (.inr (h.finished.exited hexited))
  have hdrained := h.ordered.rx.drained
  rw [h.ordered.rx.waits (.inr hexited)] at hdrained
  have hdelivered : packets.length ≤ s.history.obAccepted.length := Nat.le_trans hall hdrained
  have hprefix := h.carried.deliversInOrder hp.framed h.ordered
  rw [System.DeliversInOrder] at hprefix
  have hsubmitted : s.history.submitted <+: packets := ⟨s.toSubmit, h.carried.submitted⟩
  have hle := hprefix.length_le
  rw [List.length_map, List.length_map, outgoing_length] at hle
  have hall' : s.history.submitted = packets := hsubmitted.eq_of_length_le (Nat.le_trans hdelivered hle)
  rw [hall'] at hprefix
  refine hprefix.eq_of_length_le ?_
  rw [List.length_map, List.length_map, outgoing_length]
  exact hdelivered

theorem Live.completes (h : Live packets size least s) : s.CanReach (System.Completed packets) := by
  refine (h.gets_acked hp).bind ?_
  rintro t ⟨ht, hacked⟩
  refine (ht.both_acked hp hacked).bind ?_
  rintro u ⟨hu, hended, hrxAcked⟩
  refine (hu.receiver_exits hp hrxAcked).bind ?_
  rintro v ⟨hv, htransmitter, hexited, hackExited⟩
  refine (hv.transmitter_exits hp (htransmitter ▸ hended)).mono ?_
  rintro w ⟨hw, hreceiver, hdone⟩
  have hexited' : w.receiver.resequencingThread = .exited := hreceiver ▸ hexited
  exact ⟨hdone, ⟨hexited', hreceiver ▸ hackExited⟩, hw.delivered hp hexited'⟩

omit [LawfulResequencing R] in
theorem Initial.live {rtBuffer : B} {rsBuffer : R} (hi : Initial rtBuffer rsBuffer)
    (haligned : Aligned rtBuffer 0 []) (hsize : capacity rtBuffer = size) (hanswers : Answers rsBuffer) :
    Live packets size 0 (System.new packets rtBuffer rsBuffer) := by
  have hagree : Agreement size (System.new packets rtBuffer rsBuffer) 0 [] :=
    ⟨haligned, hsize, rfl, Nat.zero_le _⟩
  obtain ⟨hreleased, hheld⟩ := hagree.released_eq hi.ordered
  exact {
    carried := carried_new hi.held hi.works
    ordered := hi.ordered
    finished := {
      acked := by rintro (ha | ha) <;> cases ha
      exited := by rintro ⟨⟩ }
    agreement := by
      rw [hreleased, hheld]
      exact hagree
    least_le := Nat.zero_le _
    unacked := fun _ => by
      rw [hreleased]
      exact List.length_pos_iff.mpr hp.nonempty
    endAck := {
      sent := by rintro a ⟨⟩
      acked := by rintro ⟨⟩
      runs := ⟨by rintro ⟨⟩, by rintro ⟨⟩⟩ }
    endTaken := {
      known := by rintro p (hmem | hmem) <;> cases hmem
      sent := by rintro (ha | ha | ha | ha) <;> cases ha
      exited := by rintro ⟨⟩ }
    answers := hanswers }

theorem System.can_complete {rtBuffer : B} {rsBuffer : R} (hi : Initial rtBuffer rsBuffer)
    (haligned : Aligned rtBuffer 0 []) (hsize : capacity rtBuffer = size) (hanswers : Answers rsBuffer)
    (hs : Runs.Reaches (fun s act s' => System.step s act = some s') System.KeepsEndAck
      (System.new packets rtBuffer rsBuffer) s) : s.CanReach (System.Completed packets) := by
  have hlive : Live packets size 0 s :=
    Runs.Reaches.invariant hs (hi.live hp haligned hsize hanswers)
      (fun _ _ _ ht hkeeps hstep => ht.step hp hkeeps hstep)
  exact hlive.completes hp

omit hp

/-- Whatever the network has done, as long as it has not dropped the last copy of the last ACK, the
transmission can still be completed. -/
theorem transmission_can_complete (packets : List DataPacket) (hp : ∀ p ∈ packets, p.TransmitSide)
    (hend : EndsTransmission packets) (hne : packets ≠ []) (hn : packets.length < 2 ^ 16) :
    (∀ timeout s, Runs.Reaches (fun s act s' => System.step s act = some s') System.KeepsEndAck
      (System.new packets (Rt.StopAndWait.new timeout) (Rs.StopAndWait.new firstSequenceNumber)) s →
      s.CanReach (System.Completed packets)) ∧
    (∀ N timeout s, 0 < N → Runs.Reaches (fun s act s' => System.step s act = some s') System.KeepsEndAck
      (System.new packets (Rt.GoBackN.new N timeout firstSequenceNumber) (Rs.GoBackN.new firstSequenceNumber)) s →
      s.CanReach (System.Completed packets)) ∧
    ∀ N M timeout s, 0 < N → 1 < M → packets.length + N.toNat < 2 ^ 16 →
      Runs.Reaches (fun s act s' => System.step s act = some s') System.KeepsEndAck
        (System.new packets (Rt.SelectiveRepeat.new N timeout firstSequenceNumber)
          (Rs.SelectiveRepeat.new M firstSequenceNumber)) s →
      s.CanReach (System.Completed packets) := by
  have hf : ∀ p ∈ packets, p.Framed := fun p hmem => (hp p hmem).framed
  refine ⟨fun timeout s hs => ?_, fun N timeout s hN hs => ?_, fun N M timeout s hN hM hshort hs => ?_⟩
  · have htx : Transmittable Rs.StopAndWait packets 1 :=
      ⟨hf, hend, hne, hn, fun hearly => False.elim hearly, Nat.one_pos⟩
    exact System.can_complete htx (initial_stopAndWait timeout) (Rt.StopAndWait.new_keepsFrom timeout) rfl trivial hs
  · have htx : Transmittable Rs.GoBackN packets N.toNat :=
      ⟨hf, hend, hne, hn, fun hearly => False.elim hearly, hN⟩
    exact System.can_complete htx (initial_goBackN N timeout)
      (Rt.CircularBuffer.new_aligned hN timeout firstSequenceNumber) rfl
      (fun hpos => absurd hpos (Nat.lt_irrefl 0)) hs
  · have htx : Transmittable Rs.SelectiveRepeat packets N.toNat := ⟨hf, hend, hne, hn, fun _ => hshort, hN⟩
    have hanswers : Answers (Rs.SelectiveRepeat.new M firstSequenceNumber) :=
      ⟨hM, fun hpos => absurd hpos (Nat.lt_irrefl 0)⟩
    exact System.can_complete htx (initial_selectiveRepeat N M timeout)
      (Rt.CircularBuffer.new_aligned hN timeout firstSequenceNumber) rfl hanswers hs

/-- The only datagram has been lost. -/
theorem transmission_can_complete_run :
    ∃ s, System.Run samplePackets (Rt.StopAndWait.new 100) (Rs.StopAndWait.new firstSequenceNumber) s ∧
      s.history.firstSent.length = 1 ∧ s.dataChannel = [] ∧ s.CanReach (System.Completed samplePackets) := by
  let calls : List Action := [.sendPacket fun _ => 0, .transmitThread fun _ => 0, .transmitThread fun _ => 0,
    .dropData 0]
  have hrun : ((Runs.replay System.step (System.new samplePackets (Rt.StopAndWait.new 100)
      (Rs.StopAndWait.new firstSequenceNumber)) calls).any
        fun s => s.history.firstSent.length == 1 && s.dataChannel == []) = true := by
    decide +kernel
  have hkeeps : Runs.AlongRun System.step System.KeepsEndAck (System.new samplePackets (Rt.StopAndWait.new 100)
      (Rs.StopAndWait.new firstSequenceNumber)) calls := by
    refine Runs.alongRun_of_calls (fun act hact s => .of_ne (fun i heq => ?_)) _
    simp [calls, heq] at hact
  obtain ⟨s, hs, htest⟩ := Runs.exists_reaches hkeeps hrun
  simp only [Bool.and_eq_true, beq_iff_eq] at htest
  exact ⟨s, hs.reachable, htest.1, htest.2, (transmission_can_complete samplePackets samplePackets_transmitSide
    samplePackets_endsTransmission (by decide) (by decide)).1 100 s hs⟩

end ArqBenchmark
