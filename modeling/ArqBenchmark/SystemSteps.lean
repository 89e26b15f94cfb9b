import ArqBenchmark.Conversation

namespace ArqBenchmark

def Transmitter.HasAck {B : Type} (t : Transmitter B) (a : SequenceNumber) : Prop :=
  t.ackThread = .pushing a ∨ a ∈ t.ackQueue

def Receiver.HasAck {R : Type} (r : Receiver R) (a : SequenceNumber) : Prop :=
  r.resequencingThread = .pushing a ∨ a ∈ r.ackQueue ∨ r.ackThread = .sending a ∨ r.ackThread = .sent a

namespace System

variable {B R : Type}

def HasAck (s : System B R) (a : SequenceNumber) : Prop :=
  s.receiver.HasAck a ∨ a ∈ s.ackChannel.map ntohs ∨ s.transmitter.HasAck a

structure RxSame (s s' : System B R) : Prop where
  resequencingBuffer : s'.receiver.resequencingBuffer = s.receiver.resequencingBuffer
  nextSequenceNumber : s'.receiver.outputBuffer.nextSequenceNumber = s.receiver.outputBuffer.nextSequenceNumber
  rsAccepted : s'.history.rsAccepted = s.history.rsAccepted
  obAccepted : s'.history.obAccepted = s.history.obAccepted
  point : ∀ point, point = .loop ∨ point = .exited → s'.receiver.resequencingThread = point →
    s.receiver.resequencingThread = point
  sent : ∃ more, s'.history.firstSent = s.history.firstSent ++ more

structure TxSame (s s' : System B R) : Prop where
  retransmissionBuffer : s'.transmitter.retransmissionBuffer = s.transmitter.retransmissionBuffer
  endOfTxSeqNum : s'.transmitter.endOfTxSeqNum = s.transmitter.endOfTxSeqNum
  endOfTxAcked : s'.transmitter.endOfTxAcked = s.transmitter.endOfTxAcked
  firstSent : s'.history.firstSent = s.history.firstSent

variable {s s' : System B R}

theorem RxSame.of_receivePacket {received : Option (ℕ × ReceiveBuffer)} {r : Receiver R}
    (hr : s.receiver.receivePacket received = some r) (data : List (List Byte)) :
    RxSame s { s with receiver := r, dataChannel := data } := by
  obtain ⟨-, point, rfl, rfl | ⟨p, rfl⟩ | ⟨fault, rfl⟩⟩ := Receiver.receivePacket_point hr <;>
    exact ⟨rfl, rfl, rfl, rfl, by simp, [], (List.append_nil _).symm⟩

theorem TxSame.of_receiveAck {received : Option (ℕ × ReceiveBuffer)} {t : Transmitter B}
    (ht : s.transmitter.receiveAck received = some t) (acks : List (List Byte)) :
    TxSame s { s with transmitter := t, ackChannel := acks } := by
  obtain ⟨-, point, rfl, -⟩ := Transmitter.receiveAck_point ht
  exact ⟨rfl, rfl, rfl, rfl⟩

variable [RetransmissionBuffer B] [ResequencingBuffer R] {act : Action}

theorem resequences_or_same (hs : s.step act = some s') :
    (∃ now r accepted delivered, s.receiver.Resequences now r accepted delivered ∧ s' = { s with
      receiver := r
      history.rsAccepted := s.history.rsAccepted ++ accepted.toList
      history.obAccepted := s.history.obAccepted ++ delivered.toList }) ∨ RxSame s s' := by
  cases step_steps hs with
  | resequences hr => exact .inl ⟨_, _, _, _, hr, rfl⟩
  | transmits => exact .inr ⟨rfl, rfl, rfl, rfl, fun _ _ => id, _, rfl⟩
  | rxReceives _ hr => exact .inr (.of_receivePacket hr _)
  | rxTimesOut hr => exact .inr (.of_receivePacket hr _)
  | sendsAcks hr => cases hr <;> exact .inr ⟨rfl, rfl, rfl, rfl, fun _ _ => id, [], (List.append_nil _).symm⟩
  | _ => exact .inr ⟨rfl, rfl, rfl, rfl, fun _ _ => id, [], (List.append_nil _).symm⟩

theorem transmits_or_same (hs : s.step act = some s') :
    (∃ now t d p, act = .transmitThread now ∧ s.transmitter.Transmits now t d p ∧ s' = { s with
      transmitter := t
      dataChannel := s.dataChannel ++ d.toList
      history.firstSent := s.history.firstSent ++ p.toList }) ∨ TxSame s s' := by
  cases step_steps hs with
  | transmits ht => exact .inl ⟨_, _, _, _, rfl, ht, rfl⟩
  | takesAcks ht => cases ht <;> exact .inr ⟨rfl, rfl, rfl, rfl⟩
  | txReceives _ ht => exact .inr (.of_receiveAck ht _)
  | txTimesOut ht => exact .inr (.of_receiveAck ht _)
  | _ => exact .inr ⟨rfl, rfl, rfl, rfl⟩

theorem firstSent_of_step (hs : s.step act = some s') :
    ∃ more, s'.history.firstSent = s.history.firstSent ++ more := by
  cases step_steps hs with
  | transmits => exact ⟨_, rfl⟩
  | _ => exact ⟨[], (List.append_nil _).symm⟩

inductive RxStep (r : Receiver R) : Action → Receiver R → Prop
  | same {act : Action} : RxStep r act r
  | resequences {now : Clock} {r' : Receiver R} {accepted delivered : Option DataPacket} :
      r.Resequences now r' accepted delivered → RxStep r (.resequencingThread now) r'
  | received {act : Action} {received : Option (ℕ × ReceiveBuffer)} {r' : Receiver R} :
      r.receivePacket received = some r' → RxStep r act r'
  | sendsAcks {r' : Receiver R} {d : Option (List Byte)} : r.SendsAcks r' d → RxStep r .rxAckThread r'
  | tryGetPacket : RxStep r .tryGetPacket r.tryGetPacket.2

theorem RxStep.of_step (hs : s.step act = some s') : RxStep s.receiver act s'.receiver := by
  cases step_steps hs with
  | resequences hr => exact .resequences hr
  | rxReceives _ hr => exact .received hr
  | rxTimesOut hr => exact .received hr
  | sendsAcks hr => exact .sendsAcks hr
  | tryGetPacket => exact .tryGetPacket
  | _ => exact .same

inductive TxStep (t : Transmitter B) : Transmitter B → Prop
  | same : TxStep t t
  | submitted {inputBuffer : InputBuffer} : TxStep t { t with inputBuffer := inputBuffer }
  | transmits {now : Clock} {t' : Transmitter B} {d : Option (List Byte)} {p : Option DataPacket} :
      t.Transmits now t' d p → TxStep t t'
  | takesAcks {t' : Transmitter B} : t.TakesAcks t' → TxStep t t'
  | received {point : TxAckPoint} : t.ackThread = .receiving → (point = .loop ∨ ∃ a, point = .pushing a) →
      TxStep t { t with ackThread := point }

theorem TxStep.of_receiveAck {t t' : Transmitter B} {received : Option (ℕ × ReceiveBuffer)}
    (ht : t.receiveAck received = some t') : TxStep t t' := by
  obtain ⟨hreceiving, point, rfl, hpoint⟩ := Transmitter.receiveAck_point ht
  exact .received hreceiving hpoint

theorem TxStep.of_step (hs : s.step act = some s') : TxStep s.transmitter s'.transmitter := by
  cases step_steps hs with
  | submits => exact .submitted
  | transmits ht => exact .transmits ht
  | takesAcks ht => exact .takesAcks ht
  | txReceives _ ht => exact .of_receiveAck ht
  | txTimesOut ht => exact .of_receiveAck ht
  | _ => exact .same

end System

theorem Transmitter.HasAck.of_transmits {B : Type} [RetransmissionBuffer B] {t t' : Transmitter B} {now : Clock}
    {d : Option (List Byte)} {p : Option DataPacket} {a : SequenceNumber} (ht : t.Transmits now t' d p)
    (ha : t'.HasAck a) : t.HasAck a := by
  have hpopped : ∀ {b : SequenceNumber} {queue : SafeQueue SequenceNumber}, t.ackQueue = b :: queue →
      t.ackThread = .pushing a ∨ a ∈ queue → t.HasAck a := by
    rintro b queue hqueue (ha | ha)
    · exact .inl ha
    · exact .inr (hqueue ▸ List.mem_cons_of_mem b ha)
  cases ht with
  | endAcked _ _ hqueue => exact hpopped hqueue ha
  | acked _ _ hqueue => exact hpopped hqueue ha
  | ackFault _ _ hqueue => exact hpopped hqueue ha
  | _ => exact ha

theorem Transmitter.HasAck.of_takesAcks {B : Type} {t t' : Transmitter B} {a : SequenceNumber}
    (ht : t.TakesAcks t') (ha : t'.HasAck a) : t.HasAck a := by
  cases ht with
  | loop hpoint =>
    rcases ha with ha | ha
    · cases hacked : t.endOfTxAcked <;> simp [hacked] at ha
    · exact .inr ha
  | pushed hpoint =>
    rcases ha with ha | ha
    · cases ha
    · rcases List.mem_append.mp ha with ha | ha
      · exact .inr ha
      · rw [List.mem_singleton.mp ha]
        exact .inl hpoint

theorem Receiver.HasAck.of_sendsAcks {R : Type} {r r' : Receiver R} {d : Option (List Byte)}
    {a : SequenceNumber}
    (hr : r.SendsAcks r' d) (ha : r'.HasAck a ∨ a ∈ d.toList.map ntohs) : r.HasAck a := by
  cases hr with
  | loop hpoint =>
    rcases ha with (ha | ha | ha | ha) | ha
    · exact .inl ha
    · exact .inr (.inl ha)
    · cases hacked : r.ackedEndOfTx <;> simp [hacked] at ha
    · cases hacked : r.ackedEndOfTx <;> simp [hacked] at ha
    · cases ha
  | @popped b queue hpoint hqueue =>
    rcases ha with (ha | ha | ha | ha) | ha
    · exact .inl ha
    · exact .inr (.inl (hqueue ▸ List.mem_cons_of_mem b ha))
    · cases ha
      exact .inr (.inl (hqueue ▸ List.mem_cons_self))
    · cases ha
    · cases ha
  | idle hpoint hqueue =>
    rcases ha with (ha | ha | ha | ha) | ha
    · exact .inl ha
    · exact .inr (.inl ha)
    · cases ha
    · cases ha
    · cases ha
  | @sending b hpoint =>
    rcases ha with (ha | ha | ha | ha) | ha
    · exact .inl ha
    · exact .inr (.inl ha)
    · cases ha
    · cases ha
      exact .inr (.inr (.inl hpoint))
    · obtain rfl : a = ntohs (htons b ++ []) := by simpa using ha
      rw [ntohs_htons]
      exact .inr (.inr (.inl hpoint))
  | sent hpoint =>
    rcases ha with (ha | ha | ha | ha) | ha
    · exact .inl ha
    · exact .inr (.inl ha)
    · cases ha
    · cases ha
    · cases ha

theorem Receiver.HasAck.of_receivePacket {R : Type} {r r' : Receiver R} {received : Option (ℕ × ReceiveBuffer)}
    {a : SequenceNumber} (hr : r.receivePacket received = some r') (ha : r'.HasAck a) : r.HasAck a := by
  obtain ⟨-, point, rfl, hpoint⟩ := Receiver.receivePacket_point hr
  rcases ha with ha | ha
  · obtain rfl : point = .pushing a := ha
    rcases hpoint with hp | ⟨p, hp⟩ | ⟨fault, hp⟩ <;> cases hp
  · exact .inr ha

theorem Receiver.HasAck.of_resequences {R : Type} [ResequencingBuffer R] {r r' : Receiver R} {now : Clock}
    {accepted delivered : Option DataPacket} {a : SequenceNumber} (hr : r.Resequences now r' accepted delivered)
    (ha : r'.HasAck a) : r.HasAck a ∨ ∃ p b, r.resequencingThread = .adding p ∧
      ResequencingBuffer.addPacket r.resequencingBuffer p = .ok (some a, b) ∧ r'.resequencingBuffer = b := by
  rcases ha with hpushing | hrest
  · cases hr with
    | loop hpoint => cases hacked : r.ackedEndOfTx <;> simp [hacked] at hpushing
    | received hpoint => cases hpushing
    | @added p ack b hpoint hadd =>
      cases ack with
      | none => cases hpushing
      | some ack =>
        obtain rfl : ack = a := by simpa using hpushing
        exact .inr ⟨p, b, hpoint, hadd, rfl⟩
    | faulted hpoint hadd => cases hpushing
    | pushed hpoint => cases hpushing
    | delivered hpoint hnext => exact absurd hpushing (by simp [hpoint])
    | drained hpoint hnext => cases hpushing
  · left
    cases hr with
    | @pushed ack hpoint =>
      rcases hrest with hqueued | hsending
      · rcases List.mem_append.mp hqueued with hqueued | hnew
        · exact .inr (.inl hqueued)
        · rw [List.mem_singleton.mp hnew]
          exact .inl hpoint
      · exact .inr (.inr hsending)
    | _ => exact .inr hrest

end ArqBenchmark
