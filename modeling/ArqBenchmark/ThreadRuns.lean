import ArqBenchmark.LiveSystem
import ArqBenchmark.Shutdown
import ArqBenchmark.TimedRuns

namespace ArqBenchmark

open ResequencingView DataPacket LawfulRetransmission LiveRetransmission LiveResequencing

namespace System

variable {B R : Type} {s : System B R}

theorem KeepsEndAck.of_quiet {act : Action} (h : act.Quiet) : s.KeepsEndAck act := by
  apply KeepsEndAck.of_ne
  rintro i rfl
  exact h

/-- Only the resequencing thread has taken steps. -/
structure RxAckIdle (s t : System B R) : Prop where
  transmitter : t.transmitter = s.transmitter
  ackChannel : t.ackChannel = s.ackChannel
  ackThread : t.receiver.ackThread = s.receiver.ackThread
  ackedEndOfTx : t.receiver.ackedEndOfTx = s.receiver.ackedEndOfTx

theorem RxAckIdle.refl (s : System B R) : RxAckIdle s s := ⟨rfl, rfl, rfl, rfl⟩

theorem RxAckIdle.trans {t u : System B R} (h : RxAckIdle s t) (h' : RxAckIdle t u) : RxAckIdle s u :=
  ⟨h'.transmitter.trans h.transmitter, h'.ackChannel.trans h.ackChannel, h'.ackThread.trans h.ackThread,
    h'.ackedEndOfTx.trans h.ackedEndOfTx⟩

/-- Only the ACK thread of the receiver has taken steps. -/
structure ResequencingIdle (s t : System B R) : Prop where
  transmitter : t.transmitter = s.transmitter
  thread : t.receiver.resequencingThread = s.receiver.resequencingThread
  buffer : t.receiver.resequencingBuffer = s.receiver.resequencingBuffer

theorem ResequencingIdle.trans {t u : System B R} (h : ResequencingIdle s t) (h' : ResequencingIdle t u) :
    ResequencingIdle s u :=
  ⟨h'.transmitter.trans h.transmitter, h'.thread.trans h.thread, h'.buffer.trans h.buffer⟩

/-- Only the transmit thread has taken steps. -/
structure OthersIdle (s t : System B R) : Prop where
  receiver : t.receiver = s.receiver
  ackChannel : t.ackChannel = s.ackChannel
  ackThread : t.transmitter.ackThread = s.transmitter.ackThread

theorem OthersIdle.trans {t u : System B R} (h : OthersIdle s t) (h' : OthersIdle t u) : OthersIdle s u :=
  ⟨h'.receiver.trans h.receiver, h'.ackChannel.trans h.ackChannel, h'.ackThread.trans h.ackThread⟩

variable [RetransmissionBuffer B] [ResequencingBuffer R]

theorem step_rxAckThread {r : Receiver R} {d : Option (List Byte)}
    (h : s.receiver.ackThreadStep = some (r, d)) :
    s.step .rxAckThread = some { s with receiver := r, ackChannel := s.ackChannel ++ d.toList } := by
  simp only [step, h, Option.map_some]

theorem step_txAckThread {t : Transmitter B} (h : s.transmitter.ackThreadStep = some t) :
    s.step .txAckThread = some { s with transmitter := t } := by
  simp only [step, h, Option.map_some]

theorem step_resequencingThread {now : Clock} {r : Receiver R} {accepted delivered : Option DataPacket}
    (h : s.receiver.resequencingStep now = some (r, accepted, delivered)) :
    s.step (.resequencingThread now) = some { s with
      receiver := r
      history.rsAccepted := s.history.rsAccepted ++ accepted.toList
      history.obAccepted := s.history.obAccepted ++ delivered.toList } := by
  simp only [step, resequencingThread, h, Option.map_some]

theorem step_transmitThread {now : Clock} {t : Transmitter B} {d : Option (List Byte)} {p : Option DataPacket}
    (h : s.transmitter.transmitStep now = some (t, d, p)) :
    s.step (.transmitThread now) = some { s with
      transmitter := t
      dataChannel := s.dataChannel ++ d.toList
      history.firstSent := s.history.firstSent ++ p.toList } := by
  simp only [step, transmitThread, h, Option.map_some]

end System

theorem Transmitter.Transmits.keeps {B : Type} [RetransmissionBuffer B] {t t' : Transmitter B} {now : Clock}
    {d : Option (List Byte)} {p : Option DataPacket} (ht : t.Transmits now t' d p) :
    t'.ackThread = t.ackThread ∧
      (t.transmitThread ≠ .processAckQueue → t'.ackQueue = t.ackQueue ∧ t'.endOfTxAcked = t.endOfTxAcked) := by
  cases ht <;> simp_all

theorem Transmitter.Transmits.empties {B : Type} [RetransmissionBuffer B] {t t' : Transmitter B} {now : Clock}
    {d : Option (List Byte)} {p : Option DataPacket} (ht : t.Transmits now t' d p)
    (hpoint : t.transmitThread = .processAckQueue) (hqueue : t.ackQueue = []) (hacked : t.endOfTxAcked = false) :
    t'.transmitThread = .attemptPacketRetransmission ∧ t'.ackQueue = [] ∧ t'.endOfTxAcked = false := by
  cases ht <;> simp_all

theorem Transmitter.Transmits.exits {B : Type} [RetransmissionBuffer B] {t t' : Transmitter B} {now : Clock}
    {d : Option (List Byte)} {p : Option DataPacket} (ht : t.Transmits now t' d p)
    (hpoint : t.transmitThread = .processAckQueue) (hacked : t.endOfTxAcked = true) :
    t'.transmitThread = .exited := by
  cases ht <;> simp_all

theorem Transmitter.Transmits.acknowledges {B : Type} [RetransmissionBuffer B] {t t' : Transmitter B}
    {now : Clock} {d : Option (List Byte)} {p : Option DataPacket} {sn : SequenceNumber}
    {queue : SafeQueue SequenceNumber} (ht : t.Transmits now t' d p) (hpoint : t.transmitThread = .processAckQueue)
    (hqueue : t.ackQueue = sn :: queue) (hacked : t.endOfTxAcked = false) (hacked' : t'.endOfTxAcked = false)
    (hrun : ∀ fault, t'.transmitThread ≠ .terminated fault) :
    p = none ∧ t'.ackQueue = queue ∧ t'.transmitThread = .processAckQueue ∧ some sn ≠ t.endOfTxSeqNum ∧
      RetransmissionBuffer.acknowledgePacket t.retransmissionBuffer sn = .ok t'.retransmissionBuffer := by
  cases ht <;> simp_all

variable {B R : Type} [RetransmissionBuffer B] [LawfulRetransmission B] [ResequencingBuffer R]
  [ResequencingView R] [LawfulResequencing R] [LiveRetransmission B] [LiveResequencing R]

variable {packets : List DataPacket} {s s' : System B R} {act : Action} {a e : SequenceNumber}
  {size least : ℕ}

section Receiver

variable (hp : Transmittable R packets size)

include hp

theorem Live.next (h : Live packets size least s) (hs : s.step act = some s') (hquiet : act.Quiet) :
    Live packets size least s' :=
  h.step hp (.of_quiet hquiet) hs

theorem Live.delivers (h : Live packets size least s) (hpoint : s.receiver.resequencingThread = .delivering) :
    s.CanReach fun t => Live packets size least t ∧ s.RxAckIdle t ∧ t.receiver.resequencingThread = .loop ∧
      t.receiver.ackQueue = s.receiver.ackQueue ∧
      debt t.receiver.resequencingBuffer = debt s.receiver.resequencingBuffer := by
  induction hpending : pending s.receiver.resequencingBuffer generalizing s with
  | nil =>
    refine .of_step_now .resequencingThread (fun _ => trivial) (fun _ => rfl) (fun T => ?_)
    rcases hnext : ResequencingBuffer.getNextPacket s.receiver.resequencingBuffer with ⟨_ | p, b⟩
    · have hstep : s.receiver.resequencingStep (fun _ => T) =
          some ({ s.receiver with resequencingBuffer := b, resequencingThread := .loop }, none, none) := by
        simp only [Receiver.resequencingStep, hpoint, Receiver.deliverPacket, hnext]
      have hs := System.step_resequencingThread hstep
      have hdebt := debt_getNextPacket s.receiver.resequencingBuffer
      rw [hnext] at hdebt
      exact ⟨_, hs, .here ⟨h.next hp hs trivial, ⟨rfl, rfl, rfl, rfl⟩, rfl, rfl, hdebt⟩⟩
    · obtain ⟨hcons, -⟩ := LawfulResequencing.getNextPacket_some h.ordered.rx.holds hnext
      cases hpending.symm.trans hcons
  | cons p rest ih =>
    refine .of_step_now .resequencingThread (fun _ => trivial) (fun _ => rfl) (fun T => ?_)
    rcases hnext : ResequencingBuffer.getNextPacket s.receiver.resequencingBuffer with ⟨_ | x, b⟩
    · obtain ⟨-, hempty⟩ := LawfulResequencing.getNextPacket_none hnext
      cases hpending.symm.trans hempty
    · obtain ⟨hcons, -⟩ := LawfulResequencing.getNextPacket_some h.ordered.rx.holds hnext
      have hrest : pending b = rest := (List.cons.inj (hcons.symm.trans hpending)).2
      obtain ⟨r, delivered, hstep, hr⟩ : ∃ r delivered,
          s.receiver.resequencingStep (fun _ => T) = some (r, none, delivered) ∧
            r = { s.receiver with
              resequencingBuffer := b
              outputBuffer := (s.receiver.outputBuffer.addPacket (fun _ => T) x).2 } := by
        simp only [Receiver.resequencingStep, hpoint, Receiver.deliverPacket, hnext]
        exact ⟨_, _, rfl, rfl⟩
      subst hr
      have hs := System.step_resequencingThread hstep
      have hdebt := debt_getNextPacket s.receiver.resequencingBuffer
      rw [hnext] at hdebt
      refine ⟨_, hs, (ih (h.next hp hs trivial) hpoint hrest).mono ?_⟩
      rintro t ⟨ht, hidle, hloop, hqueue, hsame⟩
      exact ⟨ht, ⟨hidle.transmitter, hidle.ackChannel, hidle.ackThread, hidle.ackedEndOfTx⟩, hloop, hqueue,
        hsame.trans hdebt⟩

theorem Live.pushes (h : Live packets size least s) (hpoint : s.receiver.resequencingThread = .pushing a) :
    s.CanReach fun t => Live packets size least t ∧ s.RxAckIdle t ∧ t.receiver.resequencingThread = .loop ∧
      t.receiver.ackQueue = s.receiver.ackQueue ++ [a] ∧
      debt t.receiver.resequencingBuffer = debt s.receiver.resequencingBuffer := by
  refine .of_step_now .resequencingThread (fun _ => trivial) (fun _ => rfl) (fun T => ?_)
  have hstep : s.receiver.resequencingStep (fun _ => T) = some ({ s.receiver with
      ackQueue := s.receiver.ackQueue.push a, resequencingThread := .delivering }, none, none) := by
    simp only [Receiver.resequencingStep, hpoint]
  have hs := System.step_resequencingThread hstep
  refine ⟨_, hs, ((h.next hp hs trivial).delivers hp rfl).mono ?_⟩
  rintro t ⟨ht, hidle, hrest⟩
  exact ⟨ht, ⟨hidle.transmitter, hidle.ackChannel, hidle.ackThread, hidle.ackedEndOfTx⟩, hrest⟩

theorem Live.adds (h : Live packets size least s) {p : DataPacket}
    (hpoint : s.receiver.resequencingThread = .adding p) (T : Time) : ∃ ack b s',
    ResequencingBuffer.addPacket s.receiver.resequencingBuffer p = .ok (ack, b) ∧
      s.step (.resequencingThread fun _ => T) = some s' ∧ Live packets size least s' ∧ s.RxAckIdle s' ∧
      s'.receiver.resequencingThread = (ack.map ResequencingPoint.pushing).getD .delivering ∧
      s'.receiver.ackQueue = s.receiver.ackQueue ∧ s'.receiver.resequencingBuffer = b := by
  obtain ⟨ack, b, hadd, -⟩ := LawfulResequencing.works_addPacket h.carried.rx.works p
  have hstep : ∃ accepted, s.receiver.resequencingStep (fun _ => T) = some ({ s.receiver with
      resequencingBuffer := b
      resequencingThread := (ack.map ResequencingPoint.pushing).getD .delivering }, accepted, none) := by
    simp only [Receiver.resequencingStep, hpoint, Receiver.addPacket, hadd]
    cases ack <;> exact ⟨_, rfl⟩
  obtain ⟨accepted, hstep⟩ := hstep
  have hs := System.step_resequencingThread hstep
  exact ⟨ack, b, _, hadd, hs, h.next hp hs trivial, ⟨rfl, rfl, rfl, rfl⟩, rfl, rfl, rfl⟩

theorem Live.receives (h : Live packets size least s) {p : DataPacket}
    (hpoint : s.receiver.resequencingThread = .received p) :
    s.CanReach fun t => Live packets size least t ∧ s.RxAckIdle t ∧ t.receiver.resequencingThread = .adding p ∧
      t.receiver.ackQueue = s.receiver.ackQueue ∧
      t.receiver.resequencingBuffer = s.receiver.resequencingBuffer ∧
      t.history.firstSent = s.history.firstSent := by
  refine .of_step_now .resequencingThread (fun _ => trivial) (fun _ => rfl) (fun T => ?_)
  have hstep : s.receiver.resequencingStep (fun _ => T) = some ({ s.receiver with
      endOfTxSn := if p.isEndOfTx then some p.getHeader.sequenceNumber else s.receiver.endOfTxSn
      resequencingThread := .adding p }, none, none) := by
    simp only [Receiver.resequencingStep, hpoint]
  have hs := System.step_resequencingThread hstep
  exact ⟨_, hs, .here ⟨h.next hp hs trivial, ⟨rfl, rfl, rfl, rfl⟩, rfl, rfl, rfl, rfl⟩⟩

theorem Live.resequencing_rests (h : Live packets size least s) :
    s.CanReach fun t => Live packets size least t ∧ s.RxAckIdle t ∧
      (t.receiver.resequencingThread = .loop ∨ t.receiver.resequencingThread = .exited) := by
  have hdelivering : ∀ {s : System B R}, Live packets size least s →
      s.receiver.resequencingThread = .delivering → s.CanReach fun t => Live packets size least t ∧ s.RxAckIdle t ∧
        (t.receiver.resequencingThread = .loop ∨ t.receiver.resequencingThread = .exited) :=
    fun h hpoint => (h.delivers hp hpoint).mono (fun t ht => ⟨ht.1, ht.2.1, .inl ht.2.2.1⟩)
  have hpushing : ∀ {s : System B R} {a : SequenceNumber}, Live packets size least s →
      s.receiver.resequencingThread = .pushing a → s.CanReach fun t => Live packets size least t ∧ s.RxAckIdle t ∧
        (t.receiver.resequencingThread = .loop ∨ t.receiver.resequencingThread = .exited) :=
    fun h hpoint => (h.pushes hp hpoint).mono (fun t ht => ⟨ht.1, ht.2.1, .inl ht.2.2.1⟩)
  have hadding : ∀ {s : System B R} {p : DataPacket}, Live packets size least s →
      s.receiver.resequencingThread = .adding p → s.CanReach fun t => Live packets size least t ∧ s.RxAckIdle t ∧
        (t.receiver.resequencingThread = .loop ∨ t.receiver.resequencingThread = .exited) := by
    intro s p h hpoint
    refine .of_step_now .resequencingThread (fun _ => trivial) (fun _ => rfl) (fun T => ?_)
    obtain ⟨ack, b, s', -, hs, h', hidle, hnext, -, -⟩ := h.adds hp hpoint T
    refine ⟨s', hs, ?_⟩
    have hkept : ∀ t, s'.RxAckIdle t → s.RxAckIdle t := fun t ht => hidle.trans ht
    cases ack with
    | none => exact (hdelivering h' hnext).mono (fun t ht => ⟨ht.1, hkept t ht.2.1, ht.2.2⟩)
    | some a => exact (hpushing h' hnext).mono (fun t ht => ⟨ht.1, hkept t ht.2.1, ht.2.2⟩)
  cases hpoint : s.receiver.resequencingThread with
  | loop => exact .here ⟨h, .refl s, .inl hpoint⟩
  | receiving =>
    have hs : s.step .rxReceiveTimeout = some { s with
        receiver := { s.receiver with resequencingThread := .delivering } } := by
      simp only [System.step, Receiver.receivePacket, hpoint, Option.map_some]
    refine .of_step hs trivial rfl ((hdelivering (h.next hp hs trivial) rfl).mono (fun t ht => ?_))
    exact ⟨ht.1, ⟨ht.2.1.transmitter, ht.2.1.ackChannel, ht.2.1.ackThread, ht.2.1.ackedEndOfTx⟩, ht.2.2⟩
  | received p =>
    refine (h.receives hp hpoint).bind (fun t ht => (hadding ht.1 ht.2.2.1).mono (fun u hu => ?_))
    exact ⟨hu.1, ht.2.1.trans hu.2.1, hu.2.2⟩
  | adding p => exact hadding h hpoint
  | pushing a => exact hpushing h hpoint
  | delivering => exact hdelivering h hpoint
  | exited => exact .here ⟨h, .refl s, .inr hpoint⟩
  | terminated fault => exact absurd hpoint (h.carried.rx.running fault)

theorem Live.sends (h : Live packets size least s) (hpoint : s.receiver.ackThread = .sending a) :
    s.CanReach fun t => Live packets size least t ∧ s.ResequencingIdle t ∧ t.receiver.ackThread = .loop ∧
      t.receiver.ackQueue = s.receiver.ackQueue ∧ htons a ∈ t.ackChannel := by
  have hsend : s.receiver.ackThreadStep = some ({ s.receiver with ackThread := .sent a }, some (htons a)) := by
    simp only [Receiver.ackThreadStep, hpoint, Receiver.sendAck_eq]
  have hs := System.step_rxAckThread hsend
  have h₁ := h.next hp hs trivial
  refine .of_step hs trivial rfl ?_
  refine .of_step (System.step_rxAckThread rfl) trivial rfl (.here ?_)
  exact ⟨h₁.next hp (System.step_rxAckThread rfl) trivial, ⟨rfl, rfl, rfl⟩, rfl, rfl, by simp⟩

theorem Live.sends_first (h : Live packets size least s) (hpoint : s.receiver.ackThread = .loop)
    (hacked : s.receiver.ackedEndOfTx = false) {queue : SafeQueue SequenceNumber}
    (hqueue : s.receiver.ackQueue = a :: queue) :
    s.CanReach fun t => Live packets size least t ∧ s.ResequencingIdle t ∧ t.receiver.ackThread = .loop ∧
      t.receiver.ackQueue = queue ∧ htons a ∈ t.ackChannel := by
  have hloop : s.receiver.ackThreadStep = some ({ s.receiver with ackThread := .popping }, none) := by
    simp [Receiver.ackThreadStep, hpoint, hacked]
  have hs := System.step_rxAckThread hloop
  have h₁ := h.next hp hs trivial
  refine .of_step hs trivial rfl ?_
  have hpop : ({ s.receiver with ackThread := .popping } : Receiver R).ackThreadStep =
      some ({ s.receiver with ackQueue := queue, ackThread := .sending a }, none) := by
    simp only [Receiver.ackThreadStep, hqueue, SafeQueue.tryPop]
  refine .of_step (System.step_rxAckThread hpop) trivial rfl ?_
  refine ((h₁.next hp (System.step_rxAckThread hpop) trivial).sends hp rfl).mono ?_
  rintro t ⟨ht, hidle, hrest⟩
  exact ⟨ht, ⟨hidle.transmitter, hidle.thread, hidle.buffer⟩, hrest⟩

theorem Live.acks_rest_of_loop (h : Live packets size least s) (hpoint : s.receiver.ackThread = .loop) :
    s.CanReach fun t => Live packets size least t ∧ s.ResequencingIdle t ∧
      (t.receiver.ackThread = .loop ∧ t.receiver.ackQueue = [] ∨ t.receiver.ackThread = .exited) := by
  induction hqueue : s.receiver.ackQueue generalizing s with
  | nil => exact .here ⟨h, ⟨rfl, rfl, rfl⟩, .inl ⟨hpoint, hqueue⟩⟩
  | cons a queue ih =>
    cases hacked : s.receiver.ackedEndOfTx with
    | true =>
      have hexit : s.receiver.ackThreadStep = some ({ s.receiver with ackThread := .exited }, none) := by
        simp [Receiver.ackThreadStep, hpoint, hacked]
      have hs := System.step_rxAckThread hexit
      exact .of_step hs trivial rfl (.here ⟨h.next hp hs trivial, ⟨rfl, rfl, rfl⟩, .inr rfl⟩)
    | false =>
      refine (h.sends_first hp hpoint hacked hqueue).bind (fun t ht => ?_)
      refine (ih ht.1 ht.2.2.1 ht.2.2.2.1).mono (fun u hu => ?_)
      exact ⟨hu.1, ht.2.1.trans hu.2.1, hu.2.2⟩

theorem Live.acks_rest (h : Live packets size least s) :
    s.CanReach fun t => Live packets size least t ∧ s.ResequencingIdle t ∧
      (t.receiver.ackThread = .loop ∧ t.receiver.ackQueue = [] ∨ t.receiver.ackThread = .exited) := by
  have hsending : ∀ {s : System B R} {a : SequenceNumber}, Live packets size least s →
      s.receiver.ackThread = .sending a → s.CanReach fun t => Live packets size least t ∧ s.ResequencingIdle t ∧
        (t.receiver.ackThread = .loop ∧ t.receiver.ackQueue = [] ∨ t.receiver.ackThread = .exited) := by
    intro s a h hpoint
    refine (h.sends hp hpoint).bind (fun t ht => (ht.1.acks_rest_of_loop hp ht.2.2.1).mono (fun u hu => ?_))
    exact ⟨hu.1, ht.2.1.trans hu.2.1, hu.2.2⟩
  cases hpoint : s.receiver.ackThread with
  | loop => exact h.acks_rest_of_loop hp hpoint
  | popping =>
    cases hqueue : s.receiver.ackQueue with
    | nil =>
      have hidle : s.receiver.ackThreadStep = some ({ s.receiver with ackThread := .loop }, none) := by
        simp only [Receiver.ackThreadStep, hpoint, hqueue, SafeQueue.tryPop]
      have hs := System.step_rxAckThread hidle
      exact .of_step hs trivial rfl (.here ⟨h.next hp hs trivial, ⟨rfl, rfl, rfl⟩, .inl ⟨rfl, hqueue⟩⟩)
    | cons a queue =>
      have hpop : s.receiver.ackThreadStep =
          some ({ s.receiver with ackQueue := queue, ackThread := .sending a }, none) := by
        simp only [Receiver.ackThreadStep, hpoint, hqueue, SafeQueue.tryPop]
      have hs := System.step_rxAckThread hpop
      refine .of_step hs trivial rfl ((hsending (h.next hp hs trivial) rfl).mono ?_)
      rintro t ⟨ht, hidle, hrest⟩
      exact ⟨ht, ⟨hidle.transmitter, hidle.thread, hidle.buffer⟩, hrest⟩
  | sending a => exact hsending h hpoint
  | sent a =>
    have hsent : s.receiver.ackThreadStep = some ({ s.receiver with
        ackedEndOfTx := s.receiver.ackedEndOfTx || s.receiver.endOfTxSn == some a, ackThread := .loop }, none) := by
      simp only [Receiver.ackThreadStep, hpoint]
    have hs := System.step_rxAckThread hsent
    refine .of_step hs trivial rfl (((h.next hp hs trivial).acks_rest_of_loop hp rfl).mono ?_)
    rintro t ⟨ht, hidle, hrest⟩
    exact ⟨ht, ⟨hidle.transmitter, hidle.thread, hidle.buffer⟩, hrest⟩
  | exited => exact .here ⟨h, ⟨rfl, rfl, rfl⟩, .inr hpoint⟩

end Receiver

section Transmitter

variable (hp : Transmittable R packets size)

include hp

theorem Live.txAcks_rest (h : Live packets size least s) :
    s.CanReach fun t => Live packets size least t ∧ t.receiver = s.receiver ∧
      t.transmitter.endOfTxAcked = s.transmitter.endOfTxAcked ∧
      (t.transmitter.ackThread = .loop ∨ t.transmitter.ackThread = .exited) := by
  cases hpoint : s.transmitter.ackThread with
  | loop => exact .here ⟨h, rfl, rfl, .inl hpoint⟩
  | receiving =>
    have hs : s.step .txReceiveTimeout = some { s with transmitter := { s.transmitter with ackThread := .loop } } := by
      simp only [System.step, Transmitter.receiveAck, hpoint, Option.map_some]
    exact .of_step hs trivial rfl (.here ⟨h.next hp hs trivial, rfl, rfl, .inl rfl⟩)
  | pushing a =>
    have hpush : s.transmitter.ackThreadStep = some { s.transmitter with
        ackQueue := s.transmitter.ackQueue.push a, ackThread := .loop } := by
      simp only [Transmitter.ackThreadStep, hpoint]
    have hs := System.step_txAckThread hpush
    exact .of_step hs trivial rfl (.here ⟨h.next hp hs trivial, rfl, rfl, .inl rfl⟩)
  | exited => exact .here ⟨h, rfl, rfl, .inr hpoint⟩

theorem Live.takes_ack (h : Live packets size least s) (hpoint : s.transmitter.ackThread = .loop)
    (hacked : s.transmitter.endOfTxAcked = false) (hflight : htons a ∈ s.ackChannel) :
    s.CanReach fun t => Live packets size least t ∧ t.receiver = s.receiver ∧
      t.transmitter = { s.transmitter with ackQueue := s.transmitter.ackQueue ++ [a] } := by
  have hloop : s.transmitter.ackThreadStep = some { s.transmitter with ackThread := .receiving } := by
    simp [Transmitter.ackThreadStep, hpoint, hacked]
  have hs₁ := System.step_txAckThread hloop
  have h₁ := h.next hp hs₁ trivial
  refine .of_step hs₁ trivial rfl ?_
  obtain ⟨i, hi⟩ := List.getElem?_of_mem hflight
  have hreceive : ({ s.transmitter with ackThread := .receiving } : Transmitter B).receiveAck
      (some (receiveInto (htons a) emptyReceiveBuffer)) = some { s.transmitter with ackThread := .pushing a } := by
    obtain ⟨t, ht⟩ := Transmitter.receiveAck_total (t := { s.transmitter with ackThread := .receiving }) rfl
      (some (receiveInto (htons a) emptyReceiveBuffer))
    obtain rfl := Transmitter.receiveAck_htons a emptyReceiveBuffer ht
    exact ht
  have hs₂ : ({ s with transmitter := { s.transmitter with ackThread := .receiving } } : System B R).step
      (.txReceive i emptyReceiveBuffer) = some { s with
        transmitter := { s.transmitter with ackThread := .pushing a }
        ackChannel := s.ackChannel.eraseIdx i } := by
    simp only [System.step, System.txReceive, hi, hreceive, Option.map_some]
  have h₂ := h₁.next hp hs₂ trivial
  refine .of_step hs₂ trivial rfl ?_
  have hs₃ := System.step_txAckThread (s := { s with
    transmitter := { s.transmitter with ackThread := .pushing a }
    ackChannel := s.ackChannel.eraseIdx i }) rfl
  refine .of_step hs₃ trivial rfl (.here ⟨h₂.next hp hs₃ trivial, rfl, ?_⟩)
  rw [← hpoint]
  rfl

theorem Live.transmits (h : Live packets size least s) (hrun : s.transmitter.transmitThread ≠ .exited)
    (now : Clock) : ∃ s' d p, s.step (.transmitThread now) = some s' ∧
      s.transmitter.Transmits now s'.transmitter d p ∧ Live packets size least s' ∧ s.OthersIdle s' ∧
      s'.history.firstSent = s.history.firstSent ++ p.toList := by
  obtain ⟨⟨t, d, p⟩, ht⟩ : ∃ x, s.transmitter.transmitStep now = some x := by
    rw [Transmitter.transmitStep]
    split
    · exact ⟨_, rfl⟩
    · exact ⟨_, rfl⟩
    · exact ⟨_, rfl⟩
    next hexited => exact absurd hexited hrun
    next fault hterminated => exact absurd hterminated (h.carried.tx.running fault)
  have htransmits := Transmitter.transmitStep_transmits ht
  have hs : s.step (.transmitThread now) = some _ := Option.map_eq_some_iff.mpr ⟨_, ht, rfl⟩
  exact ⟨_, d, p, hs, htransmits, h.next hp hs trivial, ⟨rfl, rfl, htransmits.keeps.1⟩, rfl⟩

omit [LawfulResequencing R] hp in
theorem Live.running (h : Live packets size least s) (hacked : s.transmitter.endOfTxAcked = false) :
    s.transmitter.transmitThread ≠ .exited := by
  intro hexited
  rw [h.endAck.runs.transmit hexited] at hacked
  cases hacked

theorem Live.reaches_queue (h : Live packets size least s) (hrun : s.transmitter.transmitThread ≠ .exited) :
    s.CanReach fun t => Live packets size least t ∧ s.OthersIdle t ∧
      t.transmitter.transmitThread = .processAckQueue ∧ t.transmitter.ackQueue = s.transmitter.ackQueue ∧
      t.transmitter.endOfTxAcked = s.transmitter.endOfTxAcked := by
  have hsending : ∀ {s : System B R}, Live packets size least s →
      s.transmitter.transmitThread = .attemptNewPacketTransmission →
      s.CanReach fun t => Live packets size least t ∧ s.OthersIdle t ∧
        t.transmitter.transmitThread = .processAckQueue ∧ t.transmitter.ackQueue = s.transmitter.ackQueue ∧
        t.transmitter.endOfTxAcked = s.transmitter.endOfTxAcked := by
    intro s h hpoint
    refine .of_step_now .transmitThread (fun _ => trivial) (fun _ => rfl) (fun T => ?_)
    obtain ⟨s', d, p, hs, ht, h', hidle, -⟩ := h.transmits hp (by rw [hpoint]; decide) fun _ => T
    obtain ⟨-, hnext | ⟨fault, hfault⟩⟩ := ht.sends hpoint
    · exact ⟨s', hs, .here ⟨h', hidle, hnext, ht.keeps.2 (by rw [hpoint]; decide)⟩⟩
    · exact absurd hfault (h'.carried.tx.running fault)
  cases hpoint : s.transmitter.transmitThread with
  | attemptPacketRetransmission =>
    refine .of_step_now .transmitThread (fun _ => trivial) (fun _ => rfl) (fun T => ?_)
    obtain ⟨s', d, p, hs, ht, h', hidle, -⟩ := h.transmits hp hrun fun _ => T
    obtain ⟨hqueue, hsame⟩ := ht.keeps.2 (by rw [hpoint]; decide)
    refine ⟨s', hs, ?_⟩
    obtain ⟨-, hnext | hnext | ⟨fault, hfault⟩⟩ := ht.retries hpoint
    · refine (hsending h' hnext).mono (fun t ht => ?_)
      exact ⟨ht.1, hidle.trans ht.2.1, ht.2.2.1, ht.2.2.2.1.trans hqueue, ht.2.2.2.2.trans hsame⟩
    · exact .here ⟨h', hidle, hnext, hqueue, hsame⟩
    · exact absurd hfault (h'.carried.tx.running fault)
  | attemptNewPacketTransmission => exact hsending h hpoint
  | processAckQueue => exact .here ⟨h, ⟨rfl, rfl, rfl⟩, hpoint, rfl, rfl⟩
  | exited => exact absurd hpoint hrun
  | terminated fault => exact absurd hpoint (h.carried.tx.running fault)

omit [LawfulResequencing R] in
theorem Live.endAck_of_hasAck (h : Live packets size least s) (ha : s.HasAck (lastNumber packets)) :
    s.transmitter.endOfTxSeqNum = some (lastNumber packets) := by
  have hlt := hp.acked_lt h.ordered ha
  have hsent := h.ordered.rx.frontier_le
  have hall := h.carried.sent_length_le_packets
  have hlast := hp.lastNumber_toNat
  exact hp.endOfTxSeqNum_eq h.carried (by omega)

theorem Live.processes_queue (h : Live packets size least s) (hacked : s.transmitter.endOfTxAcked = false)
    (hpoint : s.transmitter.transmitThread = .processAckQueue) :
    s.CanReach fun t => Live packets size least t ∧ s.OthersIdle t ∧ (t.transmitter.endOfTxAcked = true ∨
      t.transmitter.transmitThread = .attemptPacketRetransmission ∧ t.transmitter.ackQueue = [] ∧
        lastNumber packets ∉ s.transmitter.ackQueue) := by
  induction hqueue : s.transmitter.ackQueue generalizing s with
  | nil =>
    refine .of_step_now .transmitThread (fun _ => trivial) (fun _ => rfl) (fun T => ?_)
    obtain ⟨s', d, p, hs, ht, h', hidle, -⟩ := h.transmits hp (h.running hacked) fun _ => T
    obtain ⟨hnext, hempty, -⟩ := ht.empties hpoint hqueue hacked
    exact ⟨s', hs, .here ⟨h', hidle, .inr ⟨hnext, hempty, List.not_mem_nil⟩⟩⟩
  | cons sn queue ih =>
    refine .of_step_now .transmitThread (fun _ => trivial) (fun _ => rfl) (fun T => ?_)
    obtain ⟨s', d, p, hs, ht, h', hidle, -⟩ := h.transmits hp (h.running hacked) fun _ => T
    refine ⟨s', hs, ?_⟩
    cases hacked' : s'.transmitter.endOfTxAcked with
    | true => exact .here ⟨h', hidle, .inl hacked'⟩
    | false =>
      rcases ht.processes hpoint hqueue (by rw [hacked]; decide) with hdone | ⟨hne, hrest, hnext | ⟨fault, hfault⟩⟩
      · rw [hacked'] at hdone
        cases hdone
      · refine (ih h' hacked' hnext hrest).mono ?_
        rintro t ⟨ht, hidle', hresult⟩
        refine ⟨ht, hidle.trans hidle', hresult.imp_right (fun ⟨hat, hempty, hnot⟩ => ⟨hat, hempty, ?_⟩)⟩
        intro hmem
        rcases List.mem_cons.mp hmem with rfl | hmem
        · exact hne (h.endAck_of_hasAck hp (.inr (.inr (.inr (hqueue ▸ List.mem_cons_self))))).symm
        · exact hnot hmem
      · exact absurd hfault (h'.carried.tx.running fault)

theorem Live.transmit_rests (h : Live packets size least s) :
    s.CanReach fun t => Live packets size least t ∧ s.OthersIdle t ∧ (t.transmitter.endOfTxAcked = true ∨
      t.transmitter.transmitThread = .attemptPacketRetransmission ∧ t.transmitter.ackQueue = [] ∧
        lastNumber packets ∉ s.transmitter.ackQueue) := by
  cases hacked : s.transmitter.endOfTxAcked with
  | true => exact .here ⟨h, ⟨rfl, rfl, rfl⟩, .inl hacked⟩
  | false =>
    refine (h.reaches_queue hp (h.running hacked)).bind ?_
    rintro t ⟨ht, hidle, hpoint, hqueue, hsame⟩
    refine (ht.processes_queue hp (hsame.trans hacked) hpoint).mono ?_
    rintro u ⟨hu, hidle', hresult⟩
    exact ⟨hu, hidle.trans hidle', hqueue ▸ hresult⟩

theorem Live.releases (h : Live packets size least s) (hacked : s.transmitter.endOfTxAcked = false)
    (hpoint : s.transmitter.transmitThread = .processAckQueue) (hqueue : s.transmitter.ackQueue = [a]) :
    s.CanReach fun t => Live packets size least t ∧ s.OthersIdle t ∧ (t.transmitter.endOfTxAcked = true ∨
      t.transmitter.transmitThread = .attemptPacketRetransmission ∧ t.transmitter.ackQueue = [] ∧
        (a.toNat < 65535 → a.toNat < t.released)) := by
  refine .of_step_now .transmitThread (fun _ => trivial) (fun _ => rfl) (fun T => ?_)
  obtain ⟨s', d, p, hs, ht, h', hidle, hsent⟩ := h.transmits hp (h.running hacked) fun _ => T
  refine ⟨s', hs, ?_⟩
  cases hacked' : s'.transmitter.endOfTxAcked with
  | true => exact .here ⟨h', hidle, .inl hacked'⟩
  | false =>
    obtain ⟨rfl, hempty, hnext, hne, hack⟩ :=
      ht.acknowledges hpoint hqueue hacked hacked' h'.carried.tx.running
    rw [Option.toList_none, List.append_nil] at hsent
    have hhas : s.HasAck a := .inr (.inr (.inr (hqueue ▸ List.mem_cons_self)))
    have hreleased : a.toNat < 65535 → a.toNat < s'.released := by
      intro hmax
      obtain ⟨k, haligned, hcapacity, hpackets, hle, -, hlt⟩ :=
        h.agreement.acked hp h.carried h.ordered hhas hne hack
      have hagree : Agreement size s' (s.released + k) _ :=
        ⟨haligned, hcapacity, hsent ▸ hpackets, hidle.receiver ▸ hle⟩
      rw [(hagree.released_eq h'.ordered).1]
      refine hlt ((h.ordered.acks a hhas).resolve_right ?_)
      rintro ⟨-, rfl⟩
      exact Nat.lt_irrefl _ hmax
    -- The rest of the run only empties the queue.
    refine .of_step_now .transmitThread (fun _ => trivial) (fun _ => rfl) (fun T => ?_)
    have hraised : Live packets size s'.released s' := { h' with least_le := Nat.le_refl _ }
    obtain ⟨u, d, p, hu, ht, hlive, hidle', -⟩ := hraised.transmits hp (h'.running hacked') fun _ => T
    obtain ⟨hattempt, hnone, -⟩ := ht.empties hnext hempty hacked'
    refine ⟨u, hu, .here ⟨{ hlive with least_le := ?_ }, hidle.trans hidle', .inr ⟨hattempt, hnone, fun hmax => ?_⟩⟩⟩
    · exact Nat.le_trans h'.least_le hlive.least_le
    · exact Nat.lt_of_lt_of_le (hreleased hmax) hlive.least_le

end Transmitter

end ArqBenchmark
