import ArqBenchmark.EndAckKept

namespace ArqBenchmark

open ResequencingView DataPacket

variable {B R : Type} [RetransmissionBuffer B] [ResequencingBuffer R]

variable {packets : List DataPacket} {rtBuffer : B} {rsBuffer : R} {s s' : System B R} {act : Action}
  {a e : SequenceNumber}

def System.CanFinish (s : System B R) : Prop :=
  ∃ t, Runs.Reachable (fun s act s' => System.step s act = some s') s t ∧ t.transmitter.endOfTxAcked = true

theorem System.CanFinish.of_step (h : s'.CanFinish) (hs : s.step act = some s') : s.CanFinish := by
  obtain ⟨t, ht, hacked⟩ := h
  exact ⟨t, (Runs.Reachable.next .refl hs).trans ht, hacked⟩

theorem Transmitter.Transmits.retries {t t' : Transmitter B} {now : Clock} {d : Option (List Byte)}
    {p : Option DataPacket} (ht : t.Transmits now t' d p)
    (hpoint : t.transmitThread = .attemptPacketRetransmission) : t'.ackQueue = t.ackQueue ∧
      (t'.transmitThread = .attemptNewPacketTransmission ∨ t'.transmitThread = .processAckQueue ∨
        ∃ fault, t'.transmitThread = .terminated fault) := by
  cases ht <;> simp_all

theorem Transmitter.Transmits.sends {t t' : Transmitter B} {now : Clock} {d : Option (List Byte)}
    {p : Option DataPacket} (ht : t.Transmits now t' d p)
    (hpoint : t.transmitThread = .attemptNewPacketTransmission) : t'.ackQueue = t.ackQueue ∧
      (t'.transmitThread = .processAckQueue ∨ ∃ fault, t'.transmitThread = .terminated fault) := by
  cases ht <;> simp_all

theorem Transmitter.Transmits.processes {t t' : Transmitter B} {now : Clock} {d : Option (List Byte)}
    {p : Option DataPacket} {sn : SequenceNumber} {queue : SafeQueue SequenceNumber}
    (ht : t.Transmits now t' d p)
    (hpoint : t.transmitThread = .processAckQueue) (hqueue : t.ackQueue = sn :: queue)
    (hacked : t.endOfTxAcked ≠ true) : t'.endOfTxAcked = true ∨ some sn ≠ t.endOfTxSeqNum ∧
      t'.ackQueue = queue ∧
      (t'.transmitThread = .processAckQueue ∨ ∃ fault, t'.transmitThread = .terminated fault) := by
  cases ht <;> simp_all

theorem System.RxStep.stays_exited {r r' : Receiver R} (h : RxStep r act r')
    (he : r.resequencingThread = .exited) : r'.resequencingThread = .exited := by
  cases h with
  | same => exact he
  | resequences hr => cases hr <;> simp_all
  | received hr =>
    obtain ⟨hreceiving, -⟩ := Receiver.receivePacket_point hr
    cases he.symm.trans hreceiving
  | sendsAcks hr => cases hr <;> exact he
  | tryGetPacket => exact he

variable [LawfulRetransmission B] [ResequencingView R]

structure Waits (packets : List DataPacket) (e : SequenceNumber) (s : System B R) : Prop where
  carried : Carried packets s
  number : EndNumber s.history.firstSent e
  runs : RunsUntilAcked s.transmitter

theorem Waits.transmits (h : Waits packets e s) (hacked : s.transmitter.endOfTxAcked ≠ true) (now : Clock) :
    ∃ s' d p, s.step (.transmitThread now) = some s' ∧ s.transmitter.Transmits now s'.transmitter d p := by
  obtain ⟨⟨t, d, p⟩, ht⟩ : ∃ x, s.transmitter.transmitStep now = some x := by
    rw [Transmitter.transmitStep]
    split
    · exact ⟨_, rfl⟩
    · exact ⟨_, rfl⟩
    · exact ⟨_, rfl⟩
    next hexited => exact absurd (h.runs.transmit hexited) hacked
    next fault hterminated => exact absurd hterminated (h.carried.tx.running fault)
  exact ⟨_, d, p, Option.map_eq_some_iff.mpr ⟨_, ht, rfl⟩, Transmitter.transmitStep_transmits ht⟩

variable [LawfulResequencing R]

theorem Waits.step (h : Waits packets e s) (hf : ∀ p ∈ packets, p.Framed) (hs : s.step act = some s') :
    Waits packets e s' := by
  obtain ⟨more, hmore⟩ := System.firstSent_of_step hs
  exact ⟨h.carried.step hf hs, hmore ▸ h.number.mono, h.runs.step (.of_step hs)⟩

theorem Waits.canFinish_of_turn (h : Waits packets e s) (hf : ∀ p ∈ packets, p.Framed)
    (hturn : ∀ (s' : System B R) d p, s.transmitter.endOfTxAcked ≠ true → Waits packets e s' →
      s.transmitter.Transmits (fun _ => 0) s'.transmitter d p → s'.CanFinish) : s.CanFinish := by
  by_cases hacked : s.transmitter.endOfTxAcked = true
  · exact ⟨s, .refl, hacked⟩
  · obtain ⟨s', d, p, hs, ht⟩ := h.transmits hacked (fun _ => 0)
    exact .of_step (hturn s' d p hacked (h.step hf hs) ht) hs

theorem Waits.canFinish_of_processing (h : Waits packets e s) (hf : ∀ p ∈ packets, p.Framed)
    (hone : EndsOnce packets) (hpoint : s.transmitter.transmitThread = .processAckQueue)
    (hqueued : e ∈ s.transmitter.ackQueue) : s.CanFinish := by
  -- Each turn takes one value off the queue, until `e` is met.
  induction hlist : s.transmitter.ackQueue generalizing s with
  | nil =>
    rw [hlist] at hqueued
    cases hqueued
  | cons sn queue ih =>
    apply h.canFinish_of_turn hf
    intro s' d p hacked h' ht
    rcases ht.processes hpoint hlist hacked with hdone | ⟨hne, hrest, hnext | ⟨fault, hfault⟩⟩
    · exact ⟨s', .refl, hdone⟩
    · refine ih h' hnext ?_ hrest
      have hend := h.carried.endOfTxSeqNum_eq hone h.number
      rw [hlist] at hqueued
      rw [hrest]
      exact (List.mem_cons.mp hqueued).resolve_left (fun heq => hne (heq ▸ hend.symm))
    · exact absurd hfault (h'.carried.tx.running fault)

theorem Waits.canFinish_of_sending (h : Waits packets e s) (hf : ∀ p ∈ packets, p.Framed)
    (hone : EndsOnce packets) (hpoint : s.transmitter.transmitThread = .attemptNewPacketTransmission)
    (hqueued : e ∈ s.transmitter.ackQueue) : s.CanFinish := by
  apply h.canFinish_of_turn hf
  intro s' d p _ h' ht
  obtain ⟨hqueue, hnext | ⟨fault, hfault⟩⟩ := ht.sends hpoint
  · exact h'.canFinish_of_processing hf hone hnext (hqueue ▸ hqueued)
  · exact absurd hfault (h'.carried.tx.running fault)

theorem Waits.canFinish_of_queued (h : Waits packets e s) (hf : ∀ p ∈ packets, p.Framed)
    (hone : EndsOnce packets) (hqueued : e ∈ s.transmitter.ackQueue) : s.CanFinish := by
  by_cases hacked : s.transmitter.endOfTxAcked = true
  · exact ⟨s, .refl, hacked⟩
  · cases hpoint : s.transmitter.transmitThread with
    | attemptPacketRetransmission =>
      apply h.canFinish_of_turn hf
      intro s' d p _ h' ht
      obtain ⟨hqueue, hnext | hnext | ⟨fault, hfault⟩⟩ := ht.retries hpoint
      · exact h'.canFinish_of_sending hf hone hnext (hqueue ▸ hqueued)
      · exact h'.canFinish_of_processing hf hone hnext (hqueue ▸ hqueued)
      · exact absurd hfault (h'.carried.tx.running fault)
    | attemptNewPacketTransmission => exact h.canFinish_of_sending hf hone hpoint hqueued
    | processAckQueue => exact h.canFinish_of_processing hf hone hpoint hqueued
    | exited => exact absurd (h.runs.transmit hpoint) hacked
    | terminated fault => exact absurd hpoint (h.carried.tx.running fault)

theorem Waits.canFinish_of_pushing (h : Waits packets e s) (hf : ∀ p ∈ packets, p.Framed)
    (hone : EndsOnce packets) (hpushing : s.transmitter.ackThread = .pushing e) : s.CanFinish := by
  have hs : s.step .txAckThread = some { s with
      transmitter := { s.transmitter with ackQueue := s.transmitter.ackQueue.push e, ackThread := .loop } } := by
    simp [System.step, Transmitter.ackThreadStep, hpushing]
  refine .of_step ((h.step hf hs).canFinish_of_queued hf hone ?_) hs
  exact List.mem_append_right _ (List.mem_singleton_self e)

theorem Waits.canFinish_of_receiving (h : Waits packets e s) (hf : ∀ p ∈ packets, p.Framed)
    (hone : EndsOnce packets) (hreceiving : s.transmitter.ackThread = .receiving)
    (hflight : htons e ∈ s.ackChannel) : s.CanFinish := by
  obtain ⟨i, hi⟩ := List.getElem?_of_mem hflight
  obtain ⟨t, ht⟩ := Transmitter.receiveAck_total hreceiving (some (receiveInto (htons e) emptyReceiveBuffer))
  have hs : s.step (.txReceive i emptyReceiveBuffer) = some { s with
      transmitter := t, ackChannel := s.ackChannel.eraseIdx i } := by
    simp [System.step, System.txReceive, hi, ht]
  refine .of_step ((h.step hf hs).canFinish_of_pushing hf hone ?_) hs
  obtain rfl := Transmitter.receiveAck_htons e emptyReceiveBuffer ht
  rfl

theorem Waits.canFinish_of_loop (h : Waits packets e s) (hf : ∀ p ∈ packets, p.Framed) (hone : EndsOnce packets)
    (hloop : s.transmitter.ackThread = .loop) (hflight : htons e ∈ s.ackChannel) : s.CanFinish := by
  by_cases hacked : s.transmitter.endOfTxAcked = true
  · exact ⟨s, .refl, hacked⟩
  · have hs : s.step .txAckThread = some { s with
        transmitter := { s.transmitter with ackThread := .receiving } } := by
      simp [System.step, Transmitter.ackThreadStep, hloop, hacked]
    exact .of_step ((h.step hf hs).canFinish_of_receiving hf hone rfl hflight) hs

theorem Waits.canFinish (h : Waits packets e s) (hf : ∀ p ∈ packets, p.Framed) (hone : EndsOnce packets)
    (halive : s.AckAlive e) : s.CanFinish := by
  rcases halive with hacked | hflight | hpushing | hqueued
  · exact ⟨s, .refl, hacked⟩
  · cases hpoint : s.transmitter.ackThread with
    | loop => exact h.canFinish_of_loop hf hone hpoint hflight
    | receiving => exact h.canFinish_of_receiving hf hone hpoint hflight
    | pushing a =>
      have hs : s.step .txAckThread = some { s with
          transmitter := { s.transmitter with ackQueue := s.transmitter.ackQueue.push a, ackThread := .loop } } := by
        simp [System.step, Transmitter.ackThreadStep, hpoint]
      exact .of_step ((h.step hf hs).canFinish_of_loop hf hone rfl hflight) hs
    | exited => exact ⟨s, .refl, h.runs.ack hpoint⟩
  · exact h.canFinish_of_pushing hf hone hpushing
  · exact h.canFinish_of_queued hf hone hqueued

/-- The receiver has finished, and the transmitter waits in vain for the ACK of its end-of-transmission packet. -/
structure System.Stuck {B R : Type} [RetransmissionBuffer B] [ResequencingBuffer R]
    (s : System B R) : Prop where
  ackedEndOfTx : s.receiver.ackedEndOfTx = true
  exited : s.receiver.resequencingThread = .exited ∧ s.receiver.ackThread = .exited
  endSent : ∃ p ∈ s.history.firstSent, p.isEndOfTx = true
  endOfTxAcked : s.transmitter.endOfTxAcked = false
  never : ∀ t, Runs.Reachable (fun s act s' => System.step s act = some s') s t →
    t.transmitter.endOfTxAcked = false

theorem EndAckKept.not_stuck (h : EndAckKept packets s) (hc : Carried packets s) (hf : ∀ p ∈ packets, p.Framed)
    (hone : EndsOnce packets) : ¬ s.Stuck := by
  intro hstuck
  obtain ⟨e, he, halive⟩ := h.acked hstuck.ackedEndOfTx
  have hwaits : Waits packets e s := ⟨hc, hc.rx.end_number e he, h.runs⟩
  obtain ⟨t, ht, hacked⟩ := hwaits.canFinish hf hone halive
  exact Bool.false_ne_true ((hstuck.never t ht).symm.trans hacked)

/-- No shutdown gets stuck unless the network drops the last copy of the last ACK. -/
theorem shutdown_not_stuck (packets : List DataPacket) (hp : ∀ p ∈ packets, p.TransmitSide)
    (hone : EndsOnce packets) :
    ForEachPair fun rtBuffer rsBuffer => ∀ s, Runs.Reaches (fun s act s' => System.step s act = some s')
      (System.KeepsNewEnd packets) (System.new packets rtBuffer rsBuffer) s → ¬ s.Stuck := by
  have hf : ∀ p ∈ packets, p.Framed := fun p hmem => (hp p hmem).framed
  apply ForEachPair.of_initial
  intro B R _ _ _ _ _ rtBuffer rsBuffer hi s hs
  have hc := System.Run.carried hf hi.held hi.works hs.reachable
  exact (System.Run.endAckKept hi hf hone hs).not_stuck hc hf hone

def endPacket : DataPacket := ⟨⟨0, 0, 0⟩, [0, 0, 0, 0, 0]⟩

theorem endPacket_transmitSide : ∀ p ∈ [endPacket], p.TransmitSide := by
  intro p hp
  obtain rfl := List.mem_singleton.mp hp
  exact .default (by decide)

theorem endPacket_endsTransmission : EndsTransmission [endPacket] := by
  rintro (_ | i) p hp
  · obtain rfl := Option.some.inj hp
    decide
  · cases hp

theorem endPacket_endsOnce : EndsOnce [endPacket] :=
  endPacket_endsTransmission.endsOnce (fun p hp => (endPacket_transmitSide p hp).framed)

def sampleShutdown : List Action :=
  let now : Clock := fun _ => 0
  [.sendPacket now, .transmitThread now, .transmitThread now, .resequencingThread now,
    .rxReceive 0 emptyReceiveBuffer, .resequencingThread now, .resequencingThread now, .resequencingThread now,
    .resequencingThread now, .resequencingThread now, .rxAckThread, .rxAckThread, .rxAckThread, .rxAckThread,
    .rxAckThread, .resequencingThread now]

/-- One of two copies of the last ACK is lost. -/
theorem shutdown_not_stuck_run :
    ∃ s, System.Run [endPacket] (Rt.StopAndWait.new 100) (Rs.StopAndWait.new firstSequenceNumber) s ∧
      s.receiver.ackThread = .exited ∧ ¬ s.Stuck := by
  have hrun : ((Runs.replay System.step (System.new [endPacket] (Rt.StopAndWait.new 100)
      (Rs.StopAndWait.new firstSequenceNumber)) (sampleShutdown ++ [.duplicateAck 0])).any
        fun s => s.receiver.ackThread == .exited && s.ackChannel == [htons 0, htons 0]) = true := by
    decide +kernel
  have hkeeps : Runs.AlongRun System.step (System.KeepsNewEnd [endPacket]) (System.new [endPacket]
      (Rt.StopAndWait.new 100) (Rs.StopAndWait.new firstSequenceNumber)) (sampleShutdown ++ [.duplicateAck 0]) := by
    refine Runs.alongRun_of_calls (fun act hact s => ⟨.of_ne (fun i heq => ?_), .inl (by decide)⟩) _
    simp [sampleShutdown, heq] at hact
  obtain ⟨s, hs, htest⟩ := Runs.exists_reaches hkeeps hrun
  simp only [Bool.and_eq_true, beq_iff_eq] at htest
  obtain ⟨hexited, hchannel⟩ := htest
  have hdrop : s.KeepsEndAck (.dropAck 0) := by
    intro e _ he
    rw [hchannel] at he ⊢
    have he' : htons 0 = htons e := Option.some.inj he
    exact .inr (.inl (he' ▸ List.mem_singleton_self _))
  have hs' := hs.tail ⟨hdrop, .inl (by decide)⟩ rfl
  exact ⟨_, hs'.reachable, hexited,
    (shutdown_not_stuck [endPacket] endPacket_transmitSide endPacket_endsOnce).1 100 _ hs'⟩

theorem System.never_acked (hc : Carried packets s) (hf : ∀ p ∈ packets, p.Framed)
    (hexited : s.receiver.resequencingThread = .exited) (hnone : ∀ a, ¬ s.HasAck a)
    (hacked : s.transmitter.endOfTxAcked = false) {t : System B R}
    (ht : Runs.Reachable (fun s act s' => System.step s act = some s') s t) :
    t.transmitter.endOfTxAcked = false := by
  have hkept := Runs.Reaches.invariant (P := fun t : System B R => Carried packets t ∧
    t.receiver.resequencingThread = .exited ∧ (∀ a, ¬ t.HasAck a) ∧ t.transmitter.endOfTxAcked = false) ht
    ⟨hc, hexited, hnone, hacked⟩ ?_
  · exact hkept.2.2.2
  · rintro t act u ⟨hc, hexited, hnone, hacked⟩ - hs
    refine ⟨hc.step hf hs, ?_, fun a ha => ?_, ?_⟩
    · exact (RxStep.of_step hs).stays_exited hexited
    · rcases hc.hasAck_of_step hs ha with hold | ⟨p, b, hadding, -⟩
      · exact hnone a hold
      · cases hexited.symm.trans hadding
    · rw [Bool.eq_false_iff]
      intro hacked'
      rcases endOfTxAcked_of_step hs hacked' with hold | ⟨sn, hsn, -⟩
      · exact Bool.false_ne_true (hacked.symm.trans hold)
      · exact hnone sn hsn

/-- The only ACK for the end-of-transmission packet is lost after the receiver has exited. -/
theorem lost_last_ack_is_stuck :
    (∀ p ∈ [endPacket], p.TransmitSide) ∧ EndsTransmission [endPacket] ∧
    ∃ s, System.Run [endPacket] (Rt.StopAndWait.new 100) (Rs.StopAndWait.new firstSequenceNumber) s ∧
      s.Stuck := by
  have hrun : ((Runs.replay System.step (System.new [endPacket] (Rt.StopAndWait.new 100)
      (Rs.StopAndWait.new firstSequenceNumber)) (sampleShutdown ++ [.dropAck 0])).any
        fun s => s.receiver.ackedEndOfTx && s.receiver.resequencingThread == .exited &&
          s.receiver.ackThread == .exited && s.history.firstSent == [endPacket] &&
          !s.transmitter.endOfTxAcked && s.receiver.ackQueue.isEmpty && s.ackChannel.isEmpty &&
          s.transmitter.ackThread == .loop && s.transmitter.ackQueue.isEmpty) = true := by
    decide +kernel
  obtain ⟨s, hs, htest⟩ := Runs.exists_reachable hrun
  simp only [Bool.and_eq_true, beq_iff_eq, List.isEmpty_iff, Bool.not_eq_true'] at htest
  obtain ⟨⟨⟨⟨⟨⟨⟨⟨hended, hexited⟩, hackExited⟩, hsent⟩, hacked⟩, hrxQueue⟩, hchannel⟩, htxPoint⟩,
    htxQueue⟩ := htest
  have hf : ∀ p ∈ [endPacket], p.Framed := fun p hp => (endPacket_transmitSide p hp).framed
  have hc := (System.Run.sound (initial_stopAndWait 100) hf (by decide) hs).1
  have hnone : ∀ a, ¬ s.HasAck a := by
    rintro a ((ha | ha | ha | ha) | ha | ha | ha)
    · simp [hexited] at ha
    · simp [hrxQueue] at ha
    · simp [hackExited] at ha
    · simp [hackExited] at ha
    · simp [hchannel] at ha
    · simp [htxPoint] at ha
    · simp [htxQueue] at ha
  refine ⟨endPacket_transmitSide, endPacket_endsTransmission, s, hs, hended, ⟨hexited, hackExited⟩,
    ⟨endPacket, ?_, by decide⟩, hacked, fun t ht => System.never_acked hc hf hexited hnone hacked ht⟩
  rw [hsent]
  exact List.mem_singleton_self _

end ArqBenchmark
