import ArqBenchmark.ReceiverOrder
import ArqBenchmark.SystemSteps

namespace ArqBenchmark

open ResequencingView DataPacket

variable {B R : Type} [RetransmissionBuffer B] [LawfulRetransmission B] [ResequencingView R]

variable {packets : List DataPacket} {s s' : System B R} {act : Action} {a : SequenceNumber}

theorem Carried.hasAck_of_txReceives (h : Carried packets s) {i : ℕ} {recvBuffer : ReceiveBuffer}
    {d : List Byte} {t : Transmitter B} (hd : s.ackChannel[i]? = some d)
    (ht : s.transmitter.receiveAck (some (receiveInto d recvBuffer)) = some t)
    (ha : ({ s with transmitter := t, ackChannel := s.ackChannel.eraseIdx i } : System B R).HasAck a) :
    s.HasAck a := by
  have hmem := List.mem_of_getElem? hd
  obtain ⟨b, rfl⟩ := h.acks d hmem
  obtain rfl := Transmitter.receiveAck_htons b recvBuffer ht
  rcases ha with ha | ha | ha | ha
  · exact .inl ha
  · obtain ⟨d, hd, rfl⟩ := List.mem_map.mp ha
    exact .inr (.inl (List.mem_map_of_mem (List.mem_of_mem_eraseIdx hd)))
  · obtain rfl : b = a := by simpa using ha
    refine .inr (.inl (List.mem_map.mpr ⟨_, hmem, ?_⟩))
    rw [← List.append_nil (htons b), ntohs_htons]
  · exact .inr (.inr (.inr ha))

/-- The packets go up in order, and only packets that were accepted in order are acknowledged, except that
`early` buffers return 65535. -/
structure Ordered (s : System B R) : Prop where
  rx : RxOrdered s.history.firstSent s.history.rsAccepted s.history.obAccepted s.receiver
  acks : ∀ a, s.HasAck a → a.toNat < frontier s.receiver.resequencingBuffer ∨ early R ∧ a = 65535

theorem Carried.sent_length_le_packets (h : Carried packets s) :
    s.history.firstSent.length ≤ packets.length := by
  have hsubmitted := congrArg List.length h.submitted
  have hqueued := congrArg List.length h.tx.queued
  rw [List.length_append] at hsubmitted hqueued
  rw [outgoing_length] at hqueued
  omega

theorem Carried.sent_length_le (h : Carried packets s) (hn : packets.length < 65536) :
    s.history.firstSent.length ≤ 65535 :=
  Nat.le_of_lt_succ (Nat.lt_of_le_of_lt h.sent_length_le_packets hn)

variable [ResequencingBuffer R]

theorem Carried.hasAck_of_step (h : Carried packets s) (hs : s.step act = some s') (ha : s'.HasAck a) :
    s.HasAck a ∨ ∃ p b, s.receiver.resequencingThread = .adding p ∧
      ResequencingBuffer.addPacket s.receiver.resequencingBuffer p = .ok (some a, b) ∧
      s'.receiver.resequencingBuffer = b := by
  cases System.step_steps hs with
  | transmits ht => exact .inl (ha.imp_right (Or.imp_right (.of_transmits ht)))
  | takesAcks ht => exact .inl (ha.imp_right (Or.imp_right (.of_takesAcks ht)))
  | txReceives hd ht => exact .inl (h.hasAck_of_txReceives hd ht ha)
  | txTimesOut ht =>
    obtain rfl := Transmitter.receiveAck_none ht
    refine .inl (ha.imp_right (Or.imp_right ?_))
    rintro (hpushing | hqueued)
    · cases hpushing
    · exact .inr hqueued
  | resequences hr =>
    rcases ha with ha | ha
    · exact (Receiver.HasAck.of_resequences hr ha).imp_left .inl
    · exact .inl (.inr ha)
  | rxReceives _ hr => exact .inl (ha.imp_left (.of_receivePacket hr))
  | rxTimesOut hr => exact .inl (ha.imp_left (.of_receivePacket hr))
  | sendsAcks hr =>
    have hsent := Receiver.HasAck.of_sendsAcks hr (a := a)
    rcases ha with ha | ha | ha
    · exact .inl (.inl (hsent (.inl ha)))
    · rw [List.map_append] at ha
      rcases List.mem_append.mp ha with ha | ha
      · exact .inl (.inr (.inl ha))
      · exact .inl (.inl (hsent (.inr ha)))
    · exact .inl (.inr (.inr ha))
  | dropAck =>
    refine .inl (ha.imp_right (Or.imp_left fun hmem => ?_))
    obtain ⟨d, hd, rfl⟩ := List.mem_map.mp hmem
    exact List.mem_map_of_mem (List.mem_of_mem_eraseIdx hd)
  | duplicateAck =>
    refine .inl (ha.imp_right (Or.imp_left fun hmem => ?_))
    obtain ⟨d, hd, rfl⟩ := List.mem_map.mp hmem
    rcases List.mem_append.mp hd with hd | hd
    · exact List.mem_map_of_mem hd
    · exact List.mem_map_of_mem (List.mem_of_getElem? (Option.mem_toList.mp hd))
  | _ => exact .inl ha

variable [LawfulResequencing R]

theorem Carried.rx_step (h : Carried packets s) (hn : packets.length < 65536) (ho : Ordered s)
    (hs : s.step act = some s') :
    RxOrdered s'.history.firstSent s'.history.rsAccepted s'.history.obAccepted s'.receiver ∧
      frontier s.receiver.resequencingBuffer ≤ frontier s'.receiver.resequencingBuffer := by
  rcases System.resequences_or_same hs with ⟨now, r, accepted, delivered, hr, rfl⟩ | hsame
  · exact ho.rx.resequences (fun i p hp => h.sent_number hp) (h.sent_length_le hn) h.rx hr
  · obtain ⟨more, hmore⟩ := hsame.sent
    rw [hsame.rsAccepted, hsame.obAccepted, hmore, hsame.resequencingBuffer]
    exact ⟨(ho.rx.at_point hsame.resequencingBuffer hsame.nextSequenceNumber
      (Or.imp (hsame.point _ (.inl rfl)) (hsame.point _ (.inr rfl)))).mono more, Nat.le_refl _⟩

theorem Carried.ordered_step (h : Carried packets s) (hn : packets.length < 65536) (ho : Ordered s)
    (hs : s.step act = some s') : Ordered s' := by
  obtain ⟨hrx, hmono⟩ := h.rx_step hn ho hs
  refine ⟨hrx, fun a ha => ?_⟩
  rcases h.hasAck_of_step hs ha with hold | ⟨p, b, hpoint, hadd, rfl⟩
  · exact (ho.acks a hold).imp_left (fun hlt => Nat.lt_of_lt_of_le hlt hmono)
  · have hdelivering : ResequencingPoint.delivering ≠ .loop ∧ ResequencingPoint.delivering ≠ .exited := by simp
    exact (ho.rx.added (fun i p hp => h.sent_number hp) (h.sent_length_le hn) (h.rx.received p (.inr hpoint)) hadd
      hdelivering).2.2 a rfl

end ArqBenchmark
