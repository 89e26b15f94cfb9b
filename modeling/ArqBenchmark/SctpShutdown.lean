import ArqBenchmark.Completion
import ArqBenchmark.StreamProgress

namespace ArqBenchmark

open DataPacket

namespace System

variable {s s' : System Rt.DummySCTP Rs.DummySCTP} {act : Action}

/-- Everything has been delivered and acknowledged, but each side waits in `recv` for the other one to close its
socket. -/
structure Hung (packets : List DataPacket) (s : System Rt.DummySCTP Rs.DummySCTP) : Prop where
  delivered : s.history.obAccepted = outgoing packets
  resequencing : s.receiver.resequencingThread = .receiving
  rxAcks : s.receiver.ackQueue = [] ∧ ∀ a, s.receiver.ackThread ≠ .sending a
  txAcks : s.transmitter.ackThread = .receiving ∧ s.ackChannel = []

end System

def System.acksToTake {B R : Type} (s : System B R) : ℕ :=
  4 * s.ackChannel.length + match s.transmitter.ackThread with
    | .pushing _ => 2
    | .loop => 1
    | _ => 0

theorem Receiver.Resequences.not_waiting {R : Type} [ResequencingBuffer R] {r r' : Receiver R} {now : Clock}
    {accepted delivered : Option DataPacket} (hr : r.Resequences now r' accepted delivered) :
    r.resequencingThread ≠ .receiving := by
  intro hpoint
  cases hr <;> simp_all

theorem Transmitter.Transmits.gets_to_exit {t t' : Transmitter Rt.DummySCTP} {now : Clock} {d : Option (List Byte)}
    {p : Option DataPacket} (ht : t.Transmits now t' d p) (hinput : t.inputBuffer.inputPackets = [])
    (hrun : ∀ fault, t'.transmitThread ≠ .terminated fault) (hlast : t.ackQueue = [] → t.endOfTxAcked = true) :
    t'.stepsToExit < t.stepsToExit := by
  cases ht with
  | retransmitted _ htry => simp [RetransmissionBuffer.tryGetPacketSpan, Rt.DummySCTP.tryGetPacketSpan] at htry
  | noneTimedOut hpoint => simp [Transmitter.stepsToExit, hpoint]
  | notReady hpoint => simp [Transmitter.stepsToExit, hpoint]
  | noPacket hpoint => simp [Transmitter.stepsToExit, hpoint]
  | sent _ _ hqueue => cases hinput.symm.trans hqueue
  | sendFault _ _ hqueue => cases hinput.symm.trans hqueue
  | exited hpoint => simp [Transmitter.stepsToExit, hpoint]
  | emptied _ hended hqueue => cases hended.symm.trans (hlast hqueue)
  | endAcked hpoint _ hqueue => simp [Transmitter.stepsToExit, hpoint, hqueue, Nat.mul_add]
  | acked hpoint _ hqueue => simp [Transmitter.stepsToExit, hpoint, hqueue, Nat.mul_add]
  | _ => exact absurd rfl (hrun _)

variable {packets : List DataPacket} {s s' : System Rt.DummySCTP Rs.DummySCTP} {act : Action} {a : SequenceNumber}

theorem Streaming.delivered (h : Streaming packets s) (hall : packets.length ≤ s.handedOver.length)
    (hdrained : s.receiver.resequencingBuffer.shadowBuffer = []) : s.history.obAccepted = outgoing packets := by
  have hsame : s.handedOver = s.history.obAccepted := by rw [System.handedOver, hdrained, List.append_nil]
  rw [← hsame]
  refine List.IsPrefix.eq_of_length_le (h.piped.handedOver_sent.trans h.piped.sent_outgoing) ?_
  rw [outgoing_length]
  exact hall

theorem Streaming.input_empty (h : Streaming packets s) (hall : packets.length ≤ s.handedOver.length) :
    s.transmitter.inputBuffer.inputPackets = [] := by
  have hsubmitted := congrArg List.length h.piped.submitted
  have hqueued := congrArg List.length h.piped.tx.queued
  have hsent := h.piped.handedOver_sent.length_le
  rw [outgoing_length, List.length_append, List.length_map] at hqueued
  rw [List.length_append] at hsubmitted
  apply List.eq_nil_of_length_eq_zero
  omega

variable (hp : Streamable packets)

include hp

theorem Streaming.takes_acks (h : Streaming packets s)
    (hgo : s.receiver.Closed ∨ s.transmitter.ackThread ≠ .receiving ∨ s.ackChannel ≠ []) :
    s.StreamsTo fun t => Streaming packets t ∧ t.receiver = s.receiver ∧ t.handedOver = s.handedOver ∧
      (t.transmitter.ackThread = .exited ∨ t.transmitter.ackThread = .loop ∧ t.ackChannel = []) := by
  apply Runs.CanReach.of_measure
    (P := fun t => Streaming packets t ∧ t.receiver = s.receiver ∧ t.handedOver = s.handedOver ∧
      (t.receiver.Closed ∨ t.transmitter.ackThread ≠ .receiving ∨ t.ackChannel ≠ []))
    (m := fun t => t.acksToTake) ?_ ⟨h, rfl, rfl, hgo⟩
  rintro t ⟨ht, hreceiver, hhanded, hgo⟩
  have hact : t.Connected .txAckThread := rfl
  cases hpoint : t.transmitter.ackThread with
  | loop =>
    by_cases hchannel : t.ackChannel = []
    · exact .here (.inl ⟨ht, hreceiver, hhanded, .inr ⟨hpoint, hchannel⟩⟩)
    · cases hended : t.transmitter.endOfTxAcked with
      | true =>
        have hstep : t.transmitter.ackThreadStep = some { t.transmitter with ackThread := .exited } := by
          simp [Transmitter.ackThreadStep, hpoint, hended]
        have hs := System.step_txAckThread hstep
        exact .of_step hact hs (.here (.inl ⟨ht.next hp hact hs, hreceiver, hhanded, .inl rfl⟩))
      | false =>
        have hstep : t.transmitter.ackThreadStep = some { t.transmitter with ackThread := .receiving } := by
          simp [Transmitter.ackThreadStep, hpoint, hended]
        have hs := System.step_txAckThread hstep
        refine .of_step hact hs (.here (.inr ⟨⟨ht.next hp hact hs, hreceiver, hhanded, .inr (.inr hchannel)⟩, ?_⟩))
        simp [System.acksToTake, hpoint]
  | receiving =>
    cases hchannel : t.ackChannel with
    | nil =>
      have hclosed : t.receiver.Closed := by
        rcases hgo with hclosed | hgo | hgo
        · exact hclosed
        · exact absurd hpoint hgo
        · exact absurd hchannel hgo
      have hact : t.Connected .txReceiveTimeout := ⟨hclosed, hchannel⟩
      have hs : t.step .txReceiveTimeout =
          some { t with transmitter := { t.transmitter with ackThread := .loop } } := by
        simp only [System.step, Transmitter.receiveAck, hpoint, Option.map_some]
      exact .of_step hact hs (.here (.inl ⟨ht.next hp hact hs, hreceiver, hhanded, .inr ⟨rfl, hchannel⟩⟩))
    | cons d rest =>
      obtain ⟨a, rfl⟩ := ht.piped.channel d (by simp [hchannel])
      obtain ⟨t', hreceive⟩ := Transmitter.receiveAck_total hpoint (some (receiveInto (htons a) emptyReceiveBuffer))
      obtain rfl := Transmitter.receiveAck_htons a emptyReceiveBuffer hreceive
      have hact : t.Connected (.txReceive 0 emptyReceiveBuffer) := rfl
      have hs : t.step (.txReceive 0 emptyReceiveBuffer) = some { t with
          transmitter := { t.transmitter with ackThread := .pushing a }, ackChannel := rest } := by
        simp only [System.step, System.txReceive, hchannel, List.getElem?_cons_zero, hreceive, Option.map_some,
          List.eraseIdx_cons_zero]
      refine .of_step hact hs (.here (.inr ⟨⟨ht.next hp hact hs, hreceiver, hhanded, .inr (.inl (by simp))⟩, ?_⟩))
      simp [System.acksToTake, hpoint, hchannel, Nat.mul_add]
  | pushing a =>
    have hstep : t.transmitter.ackThreadStep = some { t.transmitter with
        ackQueue := t.transmitter.ackQueue.push a, ackThread := .loop } := by
      simp only [Transmitter.ackThreadStep, hpoint]
    have hs := System.step_txAckThread hstep
    refine .of_step hact hs (.here (.inr ⟨⟨ht.next hp hact hs, hreceiver, hhanded, .inr (.inl (by simp))⟩, ?_⟩))
    simp [System.acksToTake, hpoint]
  | exited => exact .here (.inl ⟨ht, hreceiver, hhanded, .inl hpoint⟩)

theorem Streaming.transmit_exits (h : Streaming packets s) (hall : packets.length ≤ s.handedOver.length)
    (howed : s.receiver.owed = [])
    (hacks : s.transmitter.ackThread = .exited ∨ s.transmitter.ackThread = .loop ∧ s.ackChannel = []) :
    s.StreamsTo fun t => Streaming packets t ∧ t.receiver = s.receiver ∧ t.handedOver = s.handedOver ∧
      t.transmitter.ackThread = s.transmitter.ackThread ∧ t.transmitter.transmitThread = .exited := by
  apply Runs.CanReach.of_measure
    (P := fun t => Streaming packets t ∧ t.receiver = s.receiver ∧ t.handedOver = s.handedOver ∧
      t.transmitter.ackThread = s.transmitter.ackThread ∧ t.ackChannel = s.ackChannel)
    (m := fun t => t.transmitter.stepsToExit) ?_ ⟨h, rfl, rfl, rfl, rfl⟩
  rintro t ⟨ht, hreceiver, hhanded, hthread, hchannel⟩
  by_cases hexited : t.transmitter.transmitThread = .exited
  · exact .here (.inl ⟨ht, hreceiver, hhanded, hthread, hexited⟩)
  · rw [← hhanded] at hall
    have hlast : t.transmitter.ackQueue = [] → t.transmitter.endOfTxAcked = true := by
      intro hqueue
      rcases hacks with hexited | ⟨hloop, hnone⟩
      · exact ht.runs.ack (hthread.trans hexited)
      · obtain ⟨c, hlength, -, hended⟩ := ht.acks.pipe
        have hempty : t.acks = [] := by
          rw [System.acks, Transmitter.taken, hqueue, hthread, hloop, hchannel, hnone, hreceiver, howed]
          rfl
        rw [hempty, List.length_nil, Nat.add_zero] at hlength
        exact hended (hlength ▸ hall)
    obtain ⟨t', d, p, hs, htransmits, ht'⟩ := ht.transmits hp hexited
    have hact : t.Connected (.transmitThread fun _ => 0) := rfl
    refine .of_step hact hs (.here (.inr ⟨⟨ht', hreceiver, hhanded, ?_, hchannel⟩, ?_⟩))
    · exact htransmits.keeps.1.trans hthread
    · exact htransmits.gets_to_exit (ht.input_empty hall) ht'.piped.tx.running hlast

theorem Streaming.transmitter_closes (h : Streaming packets s) (hall : packets.length ≤ s.handedOver.length)
    (howed : s.receiver.owed = [])
    (hgo : s.receiver.Closed ∨ s.transmitter.ackThread ≠ .receiving ∨ s.ackChannel ≠ []) :
    s.StreamsTo fun t => Streaming packets t ∧ t.receiver = s.receiver ∧ t.handedOver = s.handedOver ∧
      t.transmitter.Closed := by
  refine (h.takes_acks hp hgo).bind ?_
  rintro t ⟨ht, hreceiver, hhanded, hacks⟩
  refine (ht.transmit_exits hp (hhanded ▸ hall) (hreceiver ▸ howed) hacks).bind ?_
  rintro u ⟨hu, hreceiver', hhanded', hthread, hexited⟩
  have hreceiver'' := hreceiver'.trans hreceiver
  have hhanded'' := hhanded'.trans hhanded
  rcases hacks with hdone | ⟨hloop, -⟩
  · exact .here ⟨hu, hreceiver'', hhanded'', hexited, hthread.trans hdone⟩
  · have hstep : u.transmitter.ackThreadStep = some { u.transmitter with ackThread := .exited } := by
      simp [Transmitter.ackThreadStep, hthread.trans hloop, hu.runs.transmit hexited]
    have hs := System.step_txAckThread hstep
    have hact : u.Connected .txAckThread := rfl
    exact .of_step hact hs (.here ⟨hu.next hp hact hs, hreceiver'', hhanded'', hexited, rfl⟩)

theorem Streaming.resequencing_exits (h : Streaming packets s) (hended : s.receiver.ackedEndOfTx = true)
    (hpoint : s.receiver.resequencingThread = .loop ∨ s.receiver.resequencingThread = .exited) :
    s.StreamsTo fun t => Streaming packets t ∧ s.Resequenced t ∧ t.receiver.resequencingThread = .exited := by
  rcases hpoint with hloop | hexited
  · have hstep : s.receiver.resequencingStep (fun _ => 0) =
        some ({ s.receiver with resequencingThread := .exited }, none, none) := by
      simp [Receiver.resequencingStep, hloop, hended]
    have hact : s.Connected (.resequencingThread fun _ => 0) := rfl
    obtain ⟨t, hs, ht, hreceiver, hframe⟩ := h.resequences hp (by simp [hloop]) hstep
    exact .of_step hact hs (.here ⟨ht, hframe, by rw [hreceiver]⟩)
  · exact .here ⟨h, .refl s, hexited⟩

omit hp in
theorem Streaming.completed (h : Streaming packets s) (hall : packets.length ≤ s.handedOver.length)
    (htx : s.transmitter.Closed) (hrx : s.receiver.Closed) : s.Completed packets := by
  obtain ⟨flight, hpiped, -⟩ := h.piped.rx
  refine ⟨htx, hrx, ?_⟩
  rw [h.delivered hall (hpiped.drained (.inr hrx.1))]

theorem Streaming.completes_of_busy (h : Streaming packets s) (hall : packets.length ≤ s.handedOver.length)
    (hbusy : s.receiver.resequencingThread ≠ .receiving) : s.StreamsTo (System.Completed packets) := by
  refine (h.resequencing_rests hp).bind ?_
  rintro t ⟨ht, hframe, hrest⟩
  rw [← hframe.handedOver] at hall
  have hpoint : t.receiver.resequencingThread = .loop ∨ t.receiver.resequencingThread = .exited := by
    rcases hrest with hloop | hexited | ⟨hwaiting, -⟩ | ⟨p, hadding⟩
    · exact .inl hloop
    · exact .inr hexited
    · exact absurd hwaiting hbusy
    · exact absurd hadding (ht.piped.not_adding hall p)
  have hacks : t.receiver.resequencingThread.acks = [] := by
    rcases hpoint with hloop | hexited
    · rw [hloop]
      rfl
    · rw [hexited]
      rfl
  refine (ht.acks_all hp hall hacks).bind ?_
  rintro u ⟨hu, rfl⟩
  refine (hu.resequencing_exits hp rfl hpoint).bind ?_
  rintro v ⟨hv, hframe', hexited⟩
  have hall' : packets.length ≤ v.handedOver.length := by
    rw [hframe'.handedOver]
    exact hall
  have hclosed : v.receiver.Closed := ⟨hexited, hframe'.idle.ackThread⟩
  have howed := hv.ends.acked (hv.ends.exited (.inl hexited))
  refine (hv.transmitter_closes hp hall' howed (.inl hclosed)).mono ?_
  rintro w ⟨hw, hreceiver, hhanded, htx⟩
  exact hw.completed (hhanded ▸ hall') htx (hreceiver ▸ hclosed)

theorem Streaming.completes_of_waiting (h : Streaming packets s) (hall : packets.length ≤ s.handedOver.length)
    (hwaiting : s.receiver.resequencingThread = .receiving) (hnot : ¬ s.Hung packets) :
    s.StreamsTo (System.Completed packets) := by
  refine (h.acks_all hp hall (by rw [hwaiting]; rfl)).bind ?_
  rintro t ⟨ht, rfl⟩
  have hgo : s.transmitter.ackThread ≠ .receiving ∨ s.acksSent.ackChannel ≠ [] := by
    by_cases htx : s.transmitter.ackThread = .receiving
    · right
      intro hchannel
      obtain ⟨hnone, howed⟩ := List.append_eq_nil_iff.mp hchannel
      obtain ⟨howed, -⟩ := List.append_eq_nil_iff.mp (List.map_eq_nil_iff.mp howed)
      obtain ⟨hthread, hqueue⟩ := List.append_eq_nil_iff.mp howed
      refine hnot ⟨h.delivered hall (h.ends.waits hwaiting), hwaiting, ⟨hqueue, fun a hsending => ?_⟩, htx, hnone⟩
      rw [hsending] at hthread
      cases hthread
    · exact .inl htx
  refine (ht.transmitter_closes hp hall (ht.ends.acked rfl) (.inr hgo)).bind ?_
  rintro u ⟨hu, hreceiver, hhanded, htx⟩
  have hall' : packets.length ≤ u.handedOver.length := by
    rw [hhanded]
    exact hall
  have hpoint : u.receiver.resequencingThread = .receiving := by
    rw [hreceiver]
    exact hwaiting
  have hs : u.step .rxReceiveTimeout = some { u with
      receiver := { u.receiver with resequencingThread := .delivering } } := by
    simp only [System.step, Receiver.receivePacket, hpoint, Option.map_some]
  have hact : u.Connected .rxReceiveTimeout := ⟨htx, (hu.piped.none_in_flight hall').1⟩
  have hv := hu.next hp hact hs
  refine .of_step hact hs ((hv.delivers hp rfl).bind ?_)
  rintro w ⟨hw, hframe, hloop⟩
  have hended : w.receiver.ackedEndOfTx = true := by
    rw [hframe.idle.ackedEndOfTx]
    change u.receiver.ackedEndOfTx = true
    rw [hreceiver]
    rfl
  refine (hw.resequencing_exits hp hended (.inl hloop)).mono ?_
  rintro x ⟨hx, hframe', hexited⟩
  have hidle := hframe.idle.trans hframe'.idle
  refine hx.completed ?_ ?_ ⟨hexited, ?_⟩
  · rw [hframe'.handedOver, hframe.handedOver]
    exact hall'
  · rw [hidle.transmitter]
    exact htx
  · rw [hidle.ackThread]
    change u.receiver.ackThread = .exited
    rw [hreceiver]
    rfl

theorem Streaming.completes (h : Streaming packets s) (hnot : ¬ s.Hung packets) :
    s.StreamsTo (System.Completed packets) := by
  by_cases hall : packets.length ≤ s.handedOver.length
  · by_cases hwaiting : s.receiver.resequencingThread = .receiving
    · exact h.completes_of_waiting hp hall hwaiting hnot
    · exact h.completes_of_busy hp hall hwaiting
  · refine (h.hands_over_all hp (Nat.lt_of_not_le hall)).bind ?_
    rintro t ⟨ht, hall, hbusy⟩
    exact ht.completes_of_busy hp hall hbusy

omit hp in
theorem Streaming.hung_next (h : Streaming packets s) (hhung : s.Hung packets) (hact : s.Connected act)
    (hs : s.step act = some s') : s'.Hung packets := by
  have hall : packets.length ≤ s.handedOver.length := by
    rw [System.handedOver, hhung.delivered, List.length_append, outgoing_length]
    exact Nat.le_add_right _ _
  have hdata := (h.piped.none_in_flight hall).1
  have hreliable := hact.isReliable
  cases System.step_steps hs with
  | submits => exact ⟨hhung.delivered, hhung.resequencing, hhung.rxAcks, hhung.txAcks⟩
  | transmits ht =>
    refine ⟨hhung.delivered, hhung.resequencing, hhung.rxAcks, ?_, hhung.txAcks.2⟩
    exact ht.keeps.1.trans hhung.txAcks.1
  | takesAcks ht =>
    cases ht with
    | loop hpoint => cases hpoint.symm.trans hhung.txAcks.1
    | pushed hpoint => cases hpoint.symm.trans hhung.txAcks.1
  | txReceives hd => simp [hhung.txAcks.2] at hd
  | txTimesOut => cases hhung.resequencing.symm.trans hact.1.1
  | resequences hr => exact absurd hhung.resequencing hr.not_waiting
  | rxReceives hd => simp [hdata] at hd
  | rxTimesOut => cases hhung.txAcks.1.symm.trans hact.1.2
  | sendsAcks hr =>
    have hchannel : s.ackChannel ++ [] = [] := (List.append_nil _).trans hhung.txAcks.2
    cases hr with
    | loop hpoint =>
      refine ⟨hhung.delivered, hhung.resequencing, ⟨hhung.rxAcks.1, fun a hsending => ?_⟩, hhung.txAcks.1, hchannel⟩
      cases hended : s.receiver.ackedEndOfTx <;> simp [hended] at hsending
    | popped hpoint hqueue => cases hhung.rxAcks.1.symm.trans hqueue
    | idle => exact ⟨hhung.delivered, hhung.resequencing, ⟨hhung.rxAcks.1, by simp⟩, hhung.txAcks.1, hchannel⟩
    | sending hpoint => exact absurd hpoint (hhung.rxAcks.2 _)
    | sent => exact ⟨hhung.delivered, hhung.resequencing, ⟨hhung.rxAcks.1, by simp⟩, hhung.txAcks.1, hchannel⟩
  | tryGetPacket => exact ⟨hhung.delivered, hhung.resequencing, hhung.rxAcks, hhung.txAcks⟩
  | dropData => cases hreliable
  | duplicateData => cases hreliable
  | dropAck => cases hreliable
  | duplicateAck => cases hreliable

theorem Streaming.hung_for_ever (h : Streaming packets s) (hhung : s.Hung packets) :
    ¬ s.StreamsTo (System.Completed packets) := by
  rintro ⟨t, hrun, hdone⟩
  have hboth : Streaming packets t ∧ t.Hung packets :=
    hrun.invariant (P := fun t => Streaming packets t ∧ t.Hung packets) ⟨h, hhung⟩
      (fun u _ _ hu hact hs => ⟨hu.1.next hp hact hs, hu.1.hung_next hu.2 hact hs⟩)
  cases hboth.2.resequencing.symm.trans hdone.receiver.1

omit hp

/-- Over SCTP, whose sockets have no timeout, a transmission can be completed from exactly those states in which
the two sides do not wait for each other to close the connection. -/
theorem dummy_sctp_completes_iff (packets : List DataPacket) (hp : ∀ p ∈ packets, p.TransmitSide ∧ p.FillsPayload)
    (hend : EndsTransmission packets) (hne : packets ≠ []) (hn : packets.length ≤ 2 ^ 16)
    (s : System Rt.DummySCTP Rs.DummySCTP)
    (hs : Runs.Reaches (fun s act s' => System.step s act = some s') System.Connected
      (System.new packets .new (.new firstSequenceNumber)) s) :
    s.StreamsTo (System.Completed packets) ↔ ¬ s.Hung packets := by
  have hstream : Streamable packets :=
    ⟨fun p hmem => ⟨(hp p hmem).1.framed, (hp p hmem).2⟩, hend, hne, hn⟩
  have h : Streaming packets s :=
    hs.invariant (streaming_new hstream) (fun _ _ _ ht hact hs => ht.next hstream hact hs)
  constructor
  · intro hcompletes hhung
    exact h.hung_for_ever hstream hhung hcompletes
  · exact h.completes hstream

/-- Both sides go back to `recv` before they see that the last packet has been acknowledged. -/
theorem dummy_sctp_completes_iff_run :
    (System.new filledPackets .new (.new firstSequenceNumber)).StreamsTo (System.Completed filledPackets) ∧
      ∃ s, Runs.Reaches (fun s act s' => System.step s act = some s') System.Connected
        (System.new filledPackets .new (.new firstSequenceNumber)) s ∧
        s.Hung filledPackets ∧ ¬ s.StreamsTo (System.Completed filledPackets) := by
  let sends : List Action := [.sendPacket fun _ => 0, .transmitThread fun _ => 0, .transmitThread fun _ => 0,
    .transmitThread fun _ => 0]
  let receives : List Action := .rxReceive 0 emptyReceiveBuffer :: List.replicate 6 (.resequencingThread fun _ => 0)
  let acknowledges : List Action := List.replicate 4 .rxAckThread
  let takes : List Action := [.txReceive 0 emptyReceiveBuffer, .txAckThread, .txAckThread]
  let calls : List Action := sends ++ sends ++ [.resequencingThread fun _ => 0] ++ receives ++ receives ++
    acknowledges ++ acknowledges ++ [.txAckThread] ++ takes ++ takes
  have hiff := dummy_sctp_completes_iff filledPackets filledPackets_transmitSide filledPackets_endsTransmission
    (by decide) (by decide)
  have hrun : ((Runs.replay System.step (System.new filledPackets Rt.DummySCTP.new
      (Rs.DummySCTP.new firstSequenceNumber)) calls).any fun s =>
        s.history.obAccepted == outgoing filledPackets && s.receiver.resequencingThread == .receiving &&
          (s.receiver.ackQueue == [] && s.receiver.ackThread == .loop) &&
          (s.transmitter.ackThread == .receiving && s.ackChannel == [])) = true := by
    decide +kernel
  have hconnected : Runs.AlongRun System.step System.Connected (System.new filledPackets Rt.DummySCTP.new
      (Rs.DummySCTP.new firstSequenceNumber)) calls := by
    apply Runs.alongRun_of_calls
    simp [calls, sends, receives, acknowledges, takes, System.Connected, Action.isReliable]
  obtain ⟨s, hs, htest⟩ := Runs.exists_reaches hconnected hrun
  simp only [Bool.and_eq_true, beq_iff_eq] at htest
  obtain ⟨⟨⟨hdelivered, hwaiting⟩, hqueue, hloop⟩, htx, hchannel⟩ := htest
  have hhung : s.Hung filledPackets := ⟨hdelivered, hwaiting, ⟨hqueue, by simp [hloop]⟩, htx, hchannel⟩
  refine ⟨(hiff _ .refl).mpr (fun hhung => ?_), s, hs, hhung, fun hcompletes => (hiff s hs).mp hcompletes hhung⟩
  cases hhung.resequencing

end ArqBenchmark
