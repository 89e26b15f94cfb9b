import ArqBenchmark.AckPipeline
import ArqBenchmark.ThreadRuns

namespace ArqBenchmark

open DataPacket

def Transmitter.Closed {B : Type} (t : Transmitter B) : Prop :=
  t.transmitThread = .exited ∧ t.ackThread = .exited

def Receiver.Closed {R : Type} (r : Receiver R) : Prop :=
  r.resequencingThread = .exited ∧ r.ackThread = .exited

namespace System

variable {B R : Type} {s : System B R} {act : Action}

/-- An SCTP connection has no timeout: `recv` only returns without a datagram when there is none left and the
other side has closed its socket, which it does once its threads have exited. -/
def Connected (s : System B R) (act : Action) : Prop :=
  match act with
  | .rxReceiveTimeout => s.transmitter.Closed ∧ s.dataChannel = []
  | .txReceiveTimeout => s.receiver.Closed ∧ s.ackChannel = []
  | _ => act.isReliable = true

theorem Connected.isReliable (h : s.Connected act) : act.isReliable = true := by
  cases act with
  | rxReceiveTimeout => rfl
  | txReceiveTimeout => rfl
  | _ => exact h

abbrev StreamsTo (s : System Rt.DummySCTP Rs.DummySCTP) (Q : System Rt.DummySCTP Rs.DummySCTP → Prop) : Prop :=
  Runs.CanReach (fun s act s' => System.step s act = some s') System.Connected s Q

structure Resequenced (s t : System Rt.DummySCTP Rs.DummySCTP) : Prop where
  idle : s.RxAckIdle t
  dataChannel : t.dataChannel = s.dataChannel
  handedOver : t.handedOver = s.handedOver
  owed : t.receiver.owed = s.receiver.owed

theorem Resequenced.refl (s : System Rt.DummySCTP Rs.DummySCTP) : s.Resequenced s := ⟨.refl s, rfl, rfl, rfl⟩

theorem Resequenced.trans {s t u : System Rt.DummySCTP Rs.DummySCTP} (h : s.Resequenced t)
    (h' : t.Resequenced u) : s.Resequenced u :=
  ⟨h.idle.trans h'.idle, h'.dataChannel.trans h.dataChannel, h'.handedOver.trans h.handedOver,
    h'.owed.trans h.owed⟩

def acksSent (s : System B R) : System B R := { s with
  receiver := { s.receiver with ackQueue := [], ackedEndOfTx := true, ackThread := .exited }
  ackChannel := s.ackChannel ++ s.receiver.owed.map htons }

theorem acksSent_of_sendsAcks {r : Receiver R} {d : Option (List Byte)} (hr : s.receiver.SendsAcks r d) :
    acksSent { s with receiver := r, ackChannel := s.ackChannel ++ d.toList } = s.acksSent := by
  have howed := hr.owed
  cases hr <;> simp [acksSent, howed]

end System

def Receiver.acksLeft {R : Type} (r : Receiver R) : ℕ :=
  5 * r.ackQueue.length + match r.ackThread with
    | .exited => 0
    | .loop => if r.ackedEndOfTx then 1 else 3
    | .popping => 2
    | .sent _ => 5
    | .sending _ => 6

theorem Receiver.ackThreadStep_total {R : Type} {r : Receiver R} (hrun : r.ackThread ≠ .exited) :
    ∃ r' d, r.ackThreadStep = some (r', d) := by
  rw [ackThreadStep]
  split
  · exact ⟨_, _, rfl⟩
  · split <;> exact ⟨_, _, rfl⟩
  · exact ⟨_, _, rfl⟩
  · exact ⟨_, _, rfl⟩
  next hexited => exact absurd hexited hrun

theorem Receiver.SendsAcks.acksLeft_lt {R : Type} {r r' : Receiver R} {d : Option (List Byte)}
    (hr : r.SendsAcks r' d) (hidle : r.ackThread = .popping → r.ackQueue = [] → r.ackedEndOfTx = true) :
    r'.acksLeft < r.acksLeft := by
  cases hr with
  | loop hpoint => cases hended : r.ackedEndOfTx <;> simp [Receiver.acksLeft, hpoint, hended]
  | popped hpoint hqueue => simp [Receiver.acksLeft, hpoint, hqueue, Nat.mul_add]
  | idle hpoint hqueue => simp [Receiver.acksLeft, hpoint, hidle hpoint hqueue]
  | sending hpoint => simp [Receiver.acksLeft, hpoint]
  | @sent a hpoint =>
    simp only [Receiver.acksLeft, hpoint]
    split <;> omega

section Measures

variable {B : Type}

def Transmitter.stepsToSend (t : Transmitter B) : ℕ :=
  3 * t.ackQueue.length + match t.transmitThread with
    | .processAckQueue => 2
    | .attemptPacketRetransmission => 1
    | _ => 0

def Transmitter.stepsToExit (t : Transmitter B) : ℕ :=
  3 * t.ackQueue.length + match t.transmitThread with
    | .attemptPacketRetransmission => 3
    | .attemptNewPacketTransmission => 2
    | .processAckQueue => 1
    | _ => 0

end Measures

theorem Transmitter.Transmits.gets_to_send {t t' : Transmitter Rt.DummySCTP} {now : Clock} {d : Option (List Byte)}
    {p : Option DataPacket} (ht : t.Transmits now t' d p) (hacked : t'.endOfTxAcked = false)
    (hrun : ∀ fault, t'.transmitThread ≠ .terminated fault) (hinput : t.inputBuffer.inputPackets ≠ []) :
    d.toList ≠ [] ∨ t'.stepsToSend < t.stepsToSend ∧ t'.inputBuffer = t.inputBuffer := by
  cases ht with
  | retransmitted _ htry => simp [RetransmissionBuffer.tryGetPacketSpan, Rt.DummySCTP.tryGetPacketSpan] at htry
  | noneTimedOut hpoint => exact .inr ⟨by simp [Transmitter.stepsToSend, hpoint], rfl⟩
  | notReady _ hready => cases hready
  | noPacket _ hempty => exact absurd hempty hinput
  | sent => exact .inl (List.cons_ne_nil _ _)
  | exited _ hended => cases hended.symm.trans hacked
  | emptied hpoint _ hqueue => exact .inr ⟨by simp [Transmitter.stepsToSend, hpoint], rfl⟩
  | endAcked => cases hacked
  | acked hpoint _ hqueue => exact .inr ⟨by simp [Transmitter.stepsToSend, hpoint, hqueue, Nat.mul_add], rfl⟩
  | _ => exact absurd rfl (hrun _)

variable {packets : List DataPacket} {s s' : System Rt.DummySCTP Rs.DummySCTP} {act : Action} {a : SequenceNumber}
  (hp : Streamable packets)

include hp

theorem Streaming.next (h : Streaming packets s) (hact : s.Connected act) (hs : s.step act = some s') :
    Streaming packets s' :=
  h.step hp hact.isReliable hs

section Receivers

theorem Streaming.acks_all (h : Streaming packets s) (hall : packets.length ≤ s.handedOver.length)
    (hpoint : s.receiver.resequencingThread.acks = []) :
    s.StreamsTo fun t => Streaming packets t ∧ t = s.acksSent := by
  apply Runs.CanReach.of_measure
    (P := fun t => Streaming packets t ∧ packets.length ≤ t.handedOver.length ∧
      t.receiver.resequencingThread.acks = [] ∧ t.acksSent = s.acksSent)
    (m := fun t => t.receiver.acksLeft) ?_ ⟨h, hall, hpoint, rfl⟩
  rintro t ⟨ht, hall, hpoint, hsame⟩
  by_cases hexited : t.receiver.ackThread = .exited
  · have hended := ht.ends.exited (.inr hexited)
    have howed := ht.ends.acked hended
    have hqueue : t.receiver.ackQueue = [] := by
      simpa [Receiver.owed, hpoint, hexited, RxAckPoint.acks] using howed
    refine .here (.inl ⟨ht, ?_⟩)
    rw [← hsame, System.acksSent, howed, List.map_nil, List.append_nil, ← hqueue, ← hended, ← hexited]
  · obtain ⟨r, d, hstep⟩ := Receiver.ackThreadStep_total hexited
    have hr := Receiver.ackThreadStep_sendsAcks hstep
    have hs := System.step_rxAckThread hstep
    have hact : t.Connected .rxAckThread := rfl
    refine .of_step hact hs (.here (.inr ⟨⟨ht.next hp hact hs, ?_, ?_, ?_⟩, hr.acksLeft_lt ?_⟩))
    · cases hr <;> exact hall
    · cases hr <;> exact hpoint
    · rw [System.acksSent_of_sendsAcks hr, hsame]
    · intro hpopping hqueue
      -- Otherwise the ACK thread would have seen that it sent the last ACK.
      refine (ht.ends.taken hall ?_).resolve_right (fun hsent => by cases hpopping.symm.trans hsent)
      simp [Receiver.owed, hpoint, hpopping, hqueue, RxAckPoint.acks]

theorem Streaming.resequences (h : Streaming packets s) (hadding : ∀ p, s.receiver.resequencingThread ≠ .adding p)
    {r : Receiver Rs.DummySCTP} {accepted delivered : Option DataPacket}
    (hstep : s.receiver.resequencingStep (fun _ => 0) = some (r, accepted, delivered)) :
    ∃ s', s.step (.resequencingThread fun _ => 0) = some s' ∧ Streaming packets s' ∧ s'.receiver = r ∧
      s.Resequenced s' := by
  have hs := System.step_resequencingThread hstep
  have hact : s.Connected (.resequencingThread fun _ => 0) := rfl
  obtain ⟨flight, hrx, -⟩ := h.piped.rx
  rcases hrx.adds_or_same (h.piped.fills hp.fills) h.piped.number (Receiver.resequencingStep_resequences hstep) with
    ⟨p, q, hpoint, -⟩ | ⟨howed, hthread, hacked, hsame⟩
  · exact absurd hpoint (hadding p)
  · exact ⟨_, hs, h.next hp hact hs, rfl, ⟨rfl, rfl, hthread, hacked⟩, rfl, hsame, howed⟩

theorem Streaming.delivers (h : Streaming packets s) (hpoint : s.receiver.resequencingThread = .delivering) :
    s.StreamsTo fun t => Streaming packets t ∧ s.Resequenced t ∧ t.receiver.resequencingThread = .loop := by
  have hact : ∀ s : System Rt.DummySCTP Rs.DummySCTP, s.Connected (.resequencingThread fun _ => 0) := fun _ => rfl
  have hadding : ∀ {s : System Rt.DummySCTP Rs.DummySCTP}, s.receiver.resequencingThread = .delivering →
      ∀ p, s.receiver.resequencingThread ≠ .adding p := by
    intro s hpoint p
    simp [hpoint]
  induction hqueue : s.receiver.resequencingBuffer.shadowBuffer generalizing s with
  | nil =>
    have hstep : s.receiver.resequencingStep (fun _ => 0) =
        some ({ s.receiver with resequencingThread := .loop }, none, none) := by
      simp only [Receiver.resequencingStep, hpoint, Receiver.deliverPacket, ResequencingBuffer.getNextPacket,
        Rs.DummySCTP.getNextPacket, hqueue, SafeQueue.tryPop]
      rw [← hqueue]
    obtain ⟨t, hs, ht, hreceiver, hframe⟩ := h.resequences hp (hadding hpoint) hstep
    exact .of_step (hact s) hs (.here ⟨ht, hframe, congrArg (·.resequencingThread) hreceiver⟩)
  | cons q queue ih =>
    obtain ⟨r, delivered, hstep, hnext, hrest⟩ : ∃ r delivered,
        s.receiver.resequencingStep (fun _ => 0) = some (r, none, delivered) ∧
          r.resequencingThread = .delivering ∧ r.resequencingBuffer.shadowBuffer = queue := by
      simp only [Receiver.resequencingStep, hpoint, Receiver.deliverPacket, ResequencingBuffer.getNextPacket,
        Rs.DummySCTP.getNextPacket, hqueue, SafeQueue.tryPop]
      exact ⟨_, _, rfl, rfl, rfl⟩
    obtain ⟨t, hs, ht, rfl, hframe⟩ := h.resequences hp (hadding hpoint) hstep
    refine .of_step (hact s) hs ((ih ht hnext hrest).mono (fun u hu => ?_))
    exact ⟨hu.1, hframe.trans hu.2.1, hu.2.2⟩

theorem Streaming.reads (h : Streaming packets s) {p : DataPacket}
    (hpoint : s.receiver.resequencingThread = .received p) :
    s.StreamsTo fun t => Streaming packets t ∧ s.Resequenced t ∧ t.receiver.resequencingThread = .adding p := by
  have hstep : s.receiver.resequencingStep (fun _ => 0) = some ({ s.receiver with
      endOfTxSn := if p.isEndOfTx then some p.getHeader.sequenceNumber else s.receiver.endOfTxSn
      resequencingThread := .adding p }, none, none) := by
    simp only [Receiver.resequencingStep, hpoint]
  have hact : s.Connected (.resequencingThread fun _ => 0) := rfl
  obtain ⟨t, hs, ht, hreceiver, hframe⟩ := h.resequences hp (by simp [hpoint]) hstep
  exact .of_step hact hs (.here ⟨ht, hframe, by rw [hreceiver]⟩)

theorem Streaming.resequencing_rests (h : Streaming packets s) :
    s.StreamsTo fun t => Streaming packets t ∧ s.Resequenced t ∧
      (t.receiver.resequencingThread = .loop ∨ t.receiver.resequencingThread = .exited ∨
        s.receiver.resequencingThread = .receiving ∧ t.receiver.resequencingThread = .receiving ∨
        ∃ p, t.receiver.resequencingThread = .adding p) := by
  have hact : s.Connected (.resequencingThread fun _ => 0) := rfl
  cases hpoint : s.receiver.resequencingThread with
  | loop => exact .here ⟨h, .refl s, .inl hpoint⟩
  | receiving => exact .here ⟨h, .refl s, .inr (.inr (.inl ⟨rfl, hpoint⟩))⟩
  | received p =>
    exact (h.reads hp hpoint).mono (fun t ht => ⟨ht.1, ht.2.1, .inr (.inr (.inr ⟨p, ht.2.2⟩))⟩)
  | adding p => exact .here ⟨h, .refl s, .inr (.inr (.inr ⟨p, hpoint⟩))⟩
  | pushing a =>
    have hstep : s.receiver.resequencingStep (fun _ => 0) = some ({ s.receiver with
        ackQueue := s.receiver.ackQueue.push a, resequencingThread := .delivering }, none, none) := by
      simp only [Receiver.resequencingStep, hpoint]
    obtain ⟨t, hs, ht, hreceiver, hframe⟩ := h.resequences hp (by simp [hpoint]) hstep
    refine .of_step hact hs ((ht.delivers hp (by rw [hreceiver])).mono (fun u hu => ?_))
    exact ⟨hu.1, hframe.trans hu.2.1, .inl hu.2.2⟩
  | delivering => exact (h.delivers hp hpoint).mono (fun t ht => ⟨ht.1, ht.2.1, .inl ht.2.2⟩)
  | exited => exact .here ⟨h, .refl s, .inr (.inl hpoint)⟩
  | terminated fault =>
    obtain ⟨flight, hrx, -⟩ := h.piped.rx
    exact absurd hpoint (hrx.running fault)

theorem Streaming.wants_packet (h : Streaming packets s) (hlt : s.handedOver.length < packets.length) :
    s.StreamsTo fun t => Streaming packets t ∧ t.handedOver = s.handedOver ∧
      (t.receiver.resequencingThread = .receiving ∨ ∃ p, t.receiver.resequencingThread = .adding p) := by
  have hrunning : ∀ {t : System Rt.DummySCTP Rs.DummySCTP}, Streaming packets t → t.handedOver = s.handedOver →
      t.receiver.ackedEndOfTx = false := by
    intro t ht hsame
    rw [← hsame] at hlt
    exact Bool.eq_false_iff.mpr (fun hended => Nat.not_le_of_gt hlt (ht.acked.complete (.inr hended)))
  refine (h.resequencing_rests hp).bind ?_
  rintro t ⟨ht, hframe, hloop | hexited | hpoint⟩
  · have hstep : t.receiver.resequencingStep (fun _ => 0) =
        some ({ t.receiver with resequencingThread := .receiving }, none, none) := by
      simp [Receiver.resequencingStep, hloop, hrunning ht hframe.handedOver]
    have hact : t.Connected (.resequencingThread fun _ => 0) := rfl
    obtain ⟨u, hs, hu, hreceiver, hframe'⟩ := ht.resequences hp (by simp [hloop]) hstep
    exact .of_step hact hs (.here ⟨hu, hframe'.handedOver.trans hframe.handedOver, .inl (by rw [hreceiver])⟩)
  · have hended := ht.ends.exited (.inl hexited)
    rw [hrunning ht hframe.handedOver] at hended
    cases hended
  · exact .here ⟨ht, hframe.handedOver, hpoint.imp_left And.right⟩

theorem Streaming.adds (h : Streaming packets s) {p : DataPacket}
    (hpoint : s.receiver.resequencingThread = .adding p) :
    s.StreamsTo fun t => Streaming packets t ∧ t.handedOver.length = s.handedOver.length + 1 ∧
      t.receiver.resequencingThread ≠ .receiving := by
  obtain ⟨flight, hrx, -⟩ := h.piped.rx
  obtain ⟨q, hadd, -⟩ := hrx.added (h.piped.fills hp.fills) h.piped.number hpoint
  obtain ⟨accepted, hstep⟩ : ∃ accepted, s.receiver.resequencingStep (fun _ => 0) = some ({ s.receiver with
      resequencingBuffer :=
        ⟨s.receiver.resequencingBuffer.shadowBuffer ++ [q], s.receiver.resequencingBuffer.nextSequenceNumber + 1⟩
      resequencingThread := .pushing q.header.sequenceNumber }, accepted, none) := by
    simp only [Receiver.resequencingStep, hpoint, Receiver.addPacket, ResequencingBuffer.addPacket, hadd]
    exact ⟨_, rfl⟩
  have hs := System.step_resequencingThread hstep
  have hact : s.Connected (.resequencingThread fun _ => 0) := rfl
  refine .of_step hact hs (.here ⟨h.next hp hact hs, ?_, by simp⟩)
  simp [System.handedOver, Nat.add_assoc]

theorem Streaming.takes_packet (h : Streaming packets s) (hpoint : s.receiver.resequencingThread = .receiving)
    (hdata : s.dataChannel ≠ []) :
    s.StreamsTo fun t => Streaming packets t ∧ t.handedOver.length = s.handedOver.length + 1 ∧
      t.receiver.resequencingThread ≠ .receiving := by
  obtain ⟨flight, hrx, hflight⟩ := h.piped.rx
  obtain ⟨q, rest, rfl⟩ : ∃ q rest, flight = q :: rest := by
    apply List.exists_cons_of_ne_nil
    rintro rfl
    exact hdata hflight
  have hq : q ∈ s.history.firstSent := by
    obtain ⟨hand, hpipe, -⟩ := hrx.pipe
    simp [hpipe]
  obtain ⟨r, hr⟩ : ∃ r, s.receiver.receivePacket (some (receiveInto q.data emptyReceiveBuffer)) = some r := by
    simp only [Receiver.receivePacket, hpoint]
    split
    · exact ⟨_, rfl⟩
    · split <;> exact ⟨_, rfl⟩
  have hfirst : s.dataChannel[0]? = some q.data := by
    rw [hflight]
    rfl
  have hs : s.step (.rxReceive 0 emptyReceiveBuffer) = some { s with
      receiver := r, dataChannel := s.dataChannel.eraseIdx 0 } := by
    simp only [System.step, System.rxReceive, hfirst, hr, Option.map_some]
  have hact : s.Connected (.rxReceive 0 emptyReceiveBuffer) := rfl
  have ht := h.next hp hact hs
  obtain ⟨p, -, rfl⟩ := Receiver.receivePacket_copy (h.piped.fills hp.fills q hq).1 emptyReceiveBuffer hr
  refine .of_step hact hs ((ht.reads hp rfl).bind (fun u hu => (hu.1.adds hp hu.2.2).mono (fun v hv => ?_)))
  exact ⟨hv.1, hv.2.1.trans (congrArg (·.length + 1) hu.2.1.handedOver), hv.2.2⟩

end Receivers

section Transmitters

theorem Streaming.transmits (h : Streaming packets s) (hrun : s.transmitter.transmitThread ≠ .exited) :
    ∃ t d p, s.step (.transmitThread fun _ => 0) = some { s with
      transmitter := t
      dataChannel := s.dataChannel ++ d.toList
      history.firstSent := s.history.firstSent ++ p.toList } ∧
      s.transmitter.Transmits (fun _ => 0) t d p ∧
      Streaming packets { s with
        transmitter := t
        dataChannel := s.dataChannel ++ d.toList
        history.firstSent := s.history.firstSent ++ p.toList } := by
  obtain ⟨⟨t, d, p⟩, ht⟩ : ∃ x, s.transmitter.transmitStep (fun _ => 0) = some x := by
    rw [Transmitter.transmitStep]
    split
    · exact ⟨_, rfl⟩
    · exact ⟨_, rfl⟩
    · exact ⟨_, rfl⟩
    next hexited => exact absurd hexited hrun
    next fault hterminated => exact absurd hterminated (h.piped.tx.running fault)
  have hs := System.step_transmitThread ht
  have hact : s.Connected (.transmitThread fun _ => 0) := rfl
  exact ⟨t, d, p, hs, Transmitter.transmitStep_transmits ht, h.next hp hact hs⟩

omit hp in
theorem Streaming.unacked (h : Streaming packets s) (hlt : s.handedOver.length < packets.length) :
    s.transmitter.endOfTxAcked = false :=
  Bool.eq_false_iff.mpr (fun hended => Nat.not_le_of_gt hlt (h.acked.complete (.inl hended)))

theorem Streaming.has_input (h : Streaming packets s) (hlt : s.history.firstSent.length < packets.length) :
    s.StreamsTo fun t => Streaming packets t ∧ t.receiver = s.receiver ∧ t.handedOver = s.handedOver ∧
      t.transmitter.inputBuffer.inputPackets ≠ [] := by
  cases hinput : s.transmitter.inputBuffer.inputPackets with
  | cons o queue => exact .here ⟨h, rfl, rfl, by rw [hinput]; exact List.cons_ne_nil _ _⟩
  | nil =>
    have hsubmitted := congrArg List.length h.piped.submitted
    have hqueued := congrArg List.length h.piped.tx.queued
    rw [hinput, List.map_nil, List.append_nil, outgoing_length] at hqueued
    rw [List.length_append] at hsubmitted
    cases hsubmit : s.toSubmit with
    | nil =>
      rw [hsubmit, List.length_nil] at hsubmitted
      omega
    | cons p rest =>
      have hframed : p.Framed := hp.framed p (by rw [← h.piped.submitted, hsubmit]; simp)
      obtain ⟨inputBuffer, hadd, hne⟩ : ∃ b, s.transmitter.inputBuffer.addPacket (fun _ => 0) p = .ok b ∧
          b.inputPackets ≠ [] := ⟨_, InputBuffer.addPacket_eq hframed _, by simp⟩
      have hs : s.step (.sendPacket fun _ => 0) = some { s with
          toSubmit := rest
          transmitter := { s.transmitter with inputBuffer := inputBuffer }
          history.submitted := s.history.submitted ++ [p] } := by
        simp only [System.step, System.sendPacket, hsubmit, Transmitter.sendPacket, hadd, Loops.ok_bind]
        rfl
      have hact : s.Connected (.sendPacket fun _ => 0) := rfl
      exact .of_step hact hs (.here ⟨h.next hp hact hs, rfl, rfl, hne⟩)

theorem Streaming.sends_packet (h : Streaming packets s) (hlt : s.handedOver.length < packets.length)
    (hinput : s.transmitter.inputBuffer.inputPackets ≠ []) :
    s.StreamsTo fun t => Streaming packets t ∧ t.receiver = s.receiver ∧ t.handedOver = s.handedOver ∧
      t.dataChannel ≠ [] := by
  apply Runs.CanReach.of_measure
    (P := fun t => Streaming packets t ∧ t.receiver = s.receiver ∧ t.handedOver = s.handedOver ∧
      t.transmitter.inputBuffer.inputPackets ≠ [])
    (m := fun t => t.transmitter.stepsToSend) ?_ ⟨h, rfl, rfl, hinput⟩
  rintro t ⟨ht, hreceiver, hhanded, hinput⟩
  rw [← hhanded] at hlt
  have hrun : t.transmitter.transmitThread ≠ .exited := by
    intro hexited
    have hended := ht.unacked hlt
    rw [ht.runs.transmit hexited] at hended
    cases hended
  obtain ⟨t', d, p, hs, htransmits, ht'⟩ := ht.transmits hp hrun
  have hact : t.Connected (.transmitThread fun _ => 0) := rfl
  refine .of_step hact hs (.here ?_)
  rcases htransmits.gets_to_send (ht'.unacked hlt) ht'.piped.tx.running hinput with hsent | ⟨hless, hsame⟩
  · refine .inl ⟨ht', hreceiver, hhanded, fun hnone => hsent (List.append_eq_nil_iff.mp hnone).2⟩
  · exact .inr ⟨⟨ht', hreceiver, hhanded, hsame ▸ hinput⟩, hless⟩

end Transmitters

theorem Streaming.hands_over (h : Streaming packets s) (hlt : s.handedOver.length < packets.length) :
    s.StreamsTo fun t => Streaming packets t ∧ t.handedOver.length = s.handedOver.length + 1 ∧
      t.receiver.resequencingThread ≠ .receiving := by
  refine (h.wants_packet hp hlt).bind ?_
  rintro t ⟨ht, hhanded, hpoint | ⟨p, hpoint⟩⟩
  · rw [← hhanded] at hlt ⊢
    by_cases hdata : t.dataChannel = []
    · -- Nothing is in flight, so that the next packet has not been transmitted yet.
      have hsent : t.history.firstSent.length < packets.length := by
        obtain ⟨flight, hrx, hflight⟩ := ht.piped.rx
        obtain ⟨hand, hpipe, hhand⟩ := hrx.pipe
        rw [hpoint] at hhand
        obtain rfl : hand = [] := hhand
        obtain rfl : flight = [] := List.map_eq_nil_iff.mp (hflight.symm.trans hdata)
        rw [hpipe, List.append_nil, List.append_nil]
        exact hlt
      refine (ht.has_input hp hsent).bind ?_
      rintro u ⟨hu, hreceiver, hhanded', hinput⟩
      refine (hu.sends_packet hp (by rw [hhanded']; exact hlt) hinput).bind ?_
      rintro v ⟨hv, hreceiver', hhanded'', hne⟩
      have hpoint' : v.receiver.resequencingThread = .receiving := by rw [hreceiver', hreceiver, hpoint]
      refine (hv.takes_packet hp hpoint' hne).mono (fun w hw => ⟨hw.1, hw.2.1.trans ?_, hw.2.2⟩)
      rw [hhanded'', hhanded']
    · exact ht.takes_packet hp hpoint hdata
  · refine (ht.adds hp hpoint).mono (fun u hu => ⟨hu.1, hu.2.1.trans ?_, hu.2.2⟩)
    rw [hhanded]

theorem Streaming.hands_over_all (h : Streaming packets s) (hlt : s.handedOver.length < packets.length) :
    s.StreamsTo fun t => Streaming packets t ∧ packets.length ≤ t.handedOver.length ∧
      t.receiver.resequencingThread ≠ .receiving := by
  apply Runs.CanReach.of_measure
    (P := fun t => Streaming packets t ∧ t.handedOver.length < packets.length)
    (m := fun t => packets.length - t.handedOver.length) ?_ ⟨h, hlt⟩
  rintro t ⟨ht, hlt⟩
  refine (ht.hands_over hp hlt).mono ?_
  rintro u ⟨hu, hmore, hbusy⟩
  by_cases hall : packets.length ≤ u.handedOver.length
  · exact .inl ⟨hu, hall, hbusy⟩
  · exact .inr ⟨⟨hu, Nat.lt_of_not_le hall⟩, by omega⟩

end ArqBenchmark
