import ArqBenchmark.PacketBuffers

namespace ArqBenchmark

inductive TransmitPoint
  | attemptPacketRetransmission
  | attemptNewPacketTransmission
  | processAckQueue
  | exited
  | terminated (fault : Fault)
deriving DecidableEq, Repr

inductive TxAckPoint
  | loop
  | receiving
  | pushing (receivedSequenceNumber : SequenceNumber)
  | exited
deriving DecidableEq, Repr

structure Transmitter (B : Type) where
  inputBuffer : InputBuffer
  retransmissionBuffer : B
  ackQueue : SafeQueue SequenceNumber
  endOfTxSeqNum : Option SequenceNumber
  endOfTxAcked : Bool
  transmitThread : TransmitPoint
  ackThread : TxAckPoint
deriving DecidableEq, Repr

namespace Transmitter

variable {B : Type}

def new (rtBuffer : B) : Transmitter B where
  inputBuffer := .new firstSequenceNumber
  retransmissionBuffer := rtBuffer
  ackQueue := []
  endOfTxSeqNum := none
  endOfTxAcked := false
  transmitThread := .attemptPacketRetransmission
  ackThread := .loop

def sendPacket (t : Transmitter B) (now : Clock) (packet : DataPacket) : Except Fault (Transmitter B) := do
  pure { t with inputBuffer := ← t.inputBuffer.addPacket now packet }

section TransmitThread

variable [RetransmissionBuffer B]

/-- The bytes that are handed to `txFn_` stand beside the new state. -/
def attemptPacketRetransmission (t : Transmitter B) (now : Clock) : Transmitter B × Option (List Byte) :=
  match RetransmissionBuffer.tryGetPacketSpan t.retransmissionBuffer now with
  | .ok (some span, b) =>
    ({ t with retransmissionBuffer := b, transmitThread := .processAckQueue }, some span)
  | .ok (none, b) =>
    ({ t with retransmissionBuffer := b, transmitThread := .attemptNewPacketTransmission }, none)
  | .error fault => ({ t with transmitThread := .terminated fault }, none)

def attemptNewPacketTransmission (t : Transmitter B) : Transmitter B × Option DataPacket :=
  if !RetransmissionBuffer.readyForNewPacket t.retransmissionBuffer then
    ({ t with transmitThread := .processAckQueue }, none)
  else
    match t.inputBuffer.tryGetPacket with
    | (none, inputBuffer) => ({ t with inputBuffer := inputBuffer, transmitThread := .processAckQueue }, none)
    | (some newPkt, inputBuffer) =>
      let t := { t with
        inputBuffer := inputBuffer
        endOfTxSeqNum := if newPkt.isEndOfTx then some newPkt.info.sequenceNumber else t.endOfTxSeqNum }
      match RetransmissionBuffer.addPacket t.retransmissionBuffer newPkt with
      | .ok b => ({ t with retransmissionBuffer := b, transmitThread := .processAckQueue }, some newPkt.packet)
      | .error fault => ({ t with transmitThread := .terminated fault }, some newPkt.packet)

/-- One turn of the loop of `processAckQueue`; behind the loop stands the check of the thread's own
loop. -/
def processAckQueue (t : Transmitter B) : Transmitter B :=
  if t.endOfTxAcked then { t with transmitThread := .exited }
  else
    match t.ackQueue.tryPop with
    | (none, _) => { t with transmitThread := .attemptPacketRetransmission }
    | (some snToAck, ackQueue) =>
      if some snToAck = t.endOfTxSeqNum then { t with ackQueue := ackQueue, endOfTxAcked := true }
      else
        match RetransmissionBuffer.acknowledgePacket t.retransmissionBuffer snToAck with
        | .ok b => { t with ackQueue := ackQueue, retransmissionBuffer := b }
        | .error fault => { t with ackQueue := ackQueue, transmitThread := .terminated fault }

/-- The next step of the transmit thread, with the datagram it transmits and the packet that is
transmitted for the first time. -/
def transmitStep (t : Transmitter B) (now : Clock) :
    Option (Transmitter B × Option (List Byte) × Option DataPacket) :=
  match t.transmitThread with
  | .attemptPacketRetransmission =>
    let (t, span) := t.attemptPacketRetransmission now
    some (t, span, none)
  | .attemptNewPacketTransmission =>
    let (t, packet) := t.attemptNewPacketTransmission
    some (t, packet.map DataPacket.getReadSpan, packet)
  | .processAckQueue => some (t.processAckQueue, none, none)
  | .exited => none
  | .terminated _ => none

inductive Transmits (t : Transmitter B) (now : Clock) :
    Transmitter B → Option (List Byte) → Option DataPacket → Prop
  | retransmitted {span : List Byte} {b : B} : t.transmitThread = .attemptPacketRetransmission →
      RetransmissionBuffer.tryGetPacketSpan t.retransmissionBuffer now = .ok (some span, b) →
      Transmits t now { t with retransmissionBuffer := b, transmitThread := .processAckQueue } (some span) none
  | noneTimedOut {b : B} : t.transmitThread = .attemptPacketRetransmission →
      RetransmissionBuffer.tryGetPacketSpan t.retransmissionBuffer now = .ok (none, b) →
      Transmits t now { t with retransmissionBuffer := b, transmitThread := .attemptNewPacketTransmission } none none
  | retransmissionFault {fault : Fault} : t.transmitThread = .attemptPacketRetransmission →
      RetransmissionBuffer.tryGetPacketSpan t.retransmissionBuffer now = .error fault →
      Transmits t now { t with transmitThread := .terminated fault } none none
  | notReady : t.transmitThread = .attemptNewPacketTransmission →
      RetransmissionBuffer.readyForNewPacket t.retransmissionBuffer = false →
      Transmits t now { t with transmitThread := .processAckQueue } none none
  | noPacket : t.transmitThread = .attemptNewPacketTransmission → t.inputBuffer.inputPackets = [] →
      Transmits t now { t with transmitThread := .processAckQueue } none none
  | sent {newPkt : TransmitBufferObject} {queue : SafeQueue TransmitBufferObject} {b : B} :
      t.transmitThread = .attemptNewPacketTransmission →
      RetransmissionBuffer.readyForNewPacket t.retransmissionBuffer = true →
      t.inputBuffer.inputPackets = newPkt :: queue →
      RetransmissionBuffer.addPacket t.retransmissionBuffer newPkt = .ok b →
      Transmits t now { t with
        inputBuffer := { t.inputBuffer with inputPackets := queue }
        endOfTxSeqNum := if newPkt.isEndOfTx then some newPkt.info.sequenceNumber else t.endOfTxSeqNum
        retransmissionBuffer := b
        transmitThread := .processAckQueue } (some newPkt.packet.getReadSpan) (some newPkt.packet)
  | sendFault {newPkt : TransmitBufferObject} {queue : SafeQueue TransmitBufferObject} {fault : Fault} :
      t.transmitThread = .attemptNewPacketTransmission →
      RetransmissionBuffer.readyForNewPacket t.retransmissionBuffer = true →
      t.inputBuffer.inputPackets = newPkt :: queue →
      RetransmissionBuffer.addPacket t.retransmissionBuffer newPkt = .error fault →
      Transmits t now { t with
        inputBuffer := { t.inputBuffer with inputPackets := queue }
        endOfTxSeqNum := if newPkt.isEndOfTx then some newPkt.info.sequenceNumber else t.endOfTxSeqNum
        transmitThread := .terminated fault } (some newPkt.packet.getReadSpan) (some newPkt.packet)
  | exited : t.transmitThread = .processAckQueue → t.endOfTxAcked = true →
      Transmits t now { t with transmitThread := .exited } none none
  | emptied : t.transmitThread = .processAckQueue → t.endOfTxAcked = false → t.ackQueue = [] →
      Transmits t now { t with transmitThread := .attemptPacketRetransmission } none none
  | endAcked {snToAck : SequenceNumber} {queue : SafeQueue SequenceNumber} : t.transmitThread = .processAckQueue →
      t.endOfTxAcked = false → t.ackQueue = snToAck :: queue → some snToAck = t.endOfTxSeqNum →
      Transmits t now { t with ackQueue := queue, endOfTxAcked := true } none none
  | acked {snToAck : SequenceNumber} {queue : SafeQueue SequenceNumber} {b : B} :
      t.transmitThread = .processAckQueue → t.endOfTxAcked = false → t.ackQueue = snToAck :: queue →
      some snToAck ≠ t.endOfTxSeqNum →
      RetransmissionBuffer.acknowledgePacket t.retransmissionBuffer snToAck = .ok b →
      Transmits t now { t with ackQueue := queue, retransmissionBuffer := b } none none
  | ackFault {snToAck : SequenceNumber} {queue : SafeQueue SequenceNumber} {fault : Fault} :
      t.transmitThread = .processAckQueue → t.endOfTxAcked = false → t.ackQueue = snToAck :: queue →
      some snToAck ≠ t.endOfTxSeqNum →
      RetransmissionBuffer.acknowledgePacket t.retransmissionBuffer snToAck = .error fault →
      Transmits t now { t with ackQueue := queue, transmitThread := .terminated fault } none none

theorem attemptPacketRetransmission_transmits (t : Transmitter B) (now : Clock)
    (hpoint : t.transmitThread = .attemptPacketRetransmission) :
    t.Transmits now (t.attemptPacketRetransmission now).1 (t.attemptPacketRetransmission now).2 none := by
  rcases htry : RetransmissionBuffer.tryGetPacketSpan t.retransmissionBuffer now with fault | ⟨_ | span, b⟩
  · simp only [attemptPacketRetransmission, htry]
    exact .retransmissionFault hpoint htry
  · simp only [attemptPacketRetransmission, htry]
    exact .noneTimedOut hpoint htry
  · simp only [attemptPacketRetransmission, htry]
    exact .retransmitted hpoint htry

theorem attemptNewPacketTransmission_transmits (t : Transmitter B) (now : Clock)
    (hpoint : t.transmitThread = .attemptNewPacketTransmission) :
    t.Transmits now t.attemptNewPacketTransmission.1
      (t.attemptNewPacketTransmission.2.map DataPacket.getReadSpan) t.attemptNewPacketTransmission.2 := by
  cases hready : RetransmissionBuffer.readyForNewPacket t.retransmissionBuffer with
  | false =>
    simp only [attemptNewPacketTransmission, hready, Bool.not_false, ↓reduceIte]
    exact .notReady hpoint hready
  | true =>
    cases hqueue : t.inputBuffer.inputPackets with
    | nil =>
      simp only [attemptNewPacketTransmission, hready, Bool.not_true, Bool.false_eq_true, ↓reduceIte,
        InputBuffer.tryGetPacket, hqueue, SafeQueue.tryPop]
      rw [← hqueue]
      exact .noPacket hpoint hqueue
    | cons newPkt queue =>
      cases hadd : RetransmissionBuffer.addPacket t.retransmissionBuffer newPkt with
      | ok b =>
        simp only [attemptNewPacketTransmission, hready, Bool.not_true, Bool.false_eq_true, ↓reduceIte,
          InputBuffer.tryGetPacket, hqueue, SafeQueue.tryPop, hadd]
        exact .sent hpoint hready hqueue hadd
      | error fault =>
        simp only [attemptNewPacketTransmission, hready, Bool.not_true, Bool.false_eq_true, ↓reduceIte,
          InputBuffer.tryGetPacket, hqueue, SafeQueue.tryPop, hadd]
        exact .sendFault hpoint hready hqueue hadd

theorem processAckQueue_transmits (t : Transmitter B) (now : Clock)
    (hpoint : t.transmitThread = .processAckQueue) :
    t.Transmits now t.processAckQueue none none := by
  cases hacked : t.endOfTxAcked with
  | true =>
    rw [processAckQueue, if_pos hacked]
    exact .exited hpoint hacked
  | false =>
    rw [processAckQueue, if_neg (by rw [hacked]; decide)]
    cases hqueue : t.ackQueue with
    | nil =>
      simp only [SafeQueue.tryPop]
      rw [← hqueue]
      exact .emptied hpoint hacked hqueue
    | cons snToAck queue =>
      simp only [SafeQueue.tryPop]
      by_cases hend : some snToAck = t.endOfTxSeqNum
      · rw [if_pos hend]
        exact .endAcked hpoint hacked hqueue hend
      · rw [if_neg hend]
        cases hack : RetransmissionBuffer.acknowledgePacket t.retransmissionBuffer snToAck with
        | ok b => exact .acked hpoint hacked hqueue hend hack
        | error fault => exact .ackFault hpoint hacked hqueue hend hack

theorem transmitStep_transmits {t t' : Transmitter B} {now : Clock} {d : Option (List Byte)}
    {p : Option DataPacket} (h : t.transmitStep now = some (t', d, p)) : t.Transmits now t' d p := by
  rw [transmitStep] at h
  split at h
  next hpoint =>
    obtain ⟨rfl, rfl, rfl⟩ : _ = t' ∧ _ = d ∧ none = p := by simpa using h
    exact t.attemptPacketRetransmission_transmits now hpoint
  next hpoint =>
    obtain ⟨rfl, rfl, rfl⟩ : _ = t' ∧ _ = d ∧ _ = p := by simpa using h
    exact t.attemptNewPacketTransmission_transmits now hpoint
  next hpoint =>
    obtain ⟨rfl, rfl, rfl⟩ : _ = t' ∧ none = d ∧ none = p := by simpa using h
    exact t.processAckQueue_transmits now hpoint
  all_goals cases h

end TransmitThread

def ackThreadStep (t : Transmitter B) : Option (Transmitter B) :=
  match t.ackThread with
  | .loop => some { t with ackThread := if t.endOfTxAcked then .exited else .receiving }
  | .pushing receivedSequenceNumber =>
    some { t with ackQueue := t.ackQueue.push receivedSequenceNumber, ackThread := .loop }
  | .receiving => none
  | .exited => none

/-- The return of `rxFn_`, with nothing when it fails or times out. -/
def receiveAck (t : Transmitter B) (received : Option (ℕ × ReceiveBuffer)) : Option (Transmitter B) :=
  match t.ackThread with
  | .receiving =>
    match received with
    | none => some { t with ackThread := .loop }
    | some (receivedBytes, recvBuffer) =>
      if 0 < receivedBytes then
        match deserialiseSeqNum 0 recvBuffer.val with
        | (true, receivedSequenceNumber) => some { t with ackThread := .pushing receivedSequenceNumber }
        | (false, _) => some { t with ackThread := .loop }
      else some { t with ackThread := .loop }
  | _ => none

inductive TakesAcks (t : Transmitter B) : Transmitter B → Prop
  | loop : t.ackThread = .loop →
      TakesAcks t { t with ackThread := if t.endOfTxAcked then .exited else .receiving }
  | pushed {a : SequenceNumber} : t.ackThread = .pushing a →
      TakesAcks t { t with ackQueue := t.ackQueue ++ [a], ackThread := .loop }

theorem ackThreadStep_takesAcks {t t' : Transmitter B} (h : t.ackThreadStep = some t') : t.TakesAcks t' := by
  rw [ackThreadStep] at h
  split at h
  next hpoint =>
    cases h
    exact .loop hpoint
  next a hpoint =>
    cases h
    exact .pushed hpoint
  all_goals cases h

theorem receiveAck_point {t t' : Transmitter B} {received : Option (ℕ × ReceiveBuffer)}
    (h : t.receiveAck received = some t') : t.ackThread = .receiving ∧
      ∃ point, t' = { t with ackThread := point } ∧ (point = .loop ∨ ∃ a, point = .pushing a) := by
  unfold receiveAck at h
  split at h
  next hpoint =>
    refine ⟨hpoint, ?_⟩
    split at h
    · cases h
      exact ⟨_, rfl, .inl rfl⟩
    · split at h
      · split at h
        · cases h
          exact ⟨_, rfl, .inr ⟨_, rfl⟩⟩
        · cases h
          exact ⟨_, rfl, .inl rfl⟩
      · cases h
        exact ⟨_, rfl, .inl rfl⟩
  next => cases h

theorem receiveAck_total {t : Transmitter B} (h : t.ackThread = .receiving)
    (received : Option (ℕ × ReceiveBuffer)) :
    ∃ t', t.receiveAck received = some t' := by
  simp only [receiveAck, h]
  split
  · exact ⟨_, rfl⟩
  · split
    · split <;> exact ⟨_, rfl⟩
    · exact ⟨_, rfl⟩

theorem receiveAck_none {t t' : Transmitter B} (h : t.receiveAck none = some t') :
    t' = { t with ackThread := .loop } := by
  rw [receiveAck] at h
  split at h
  next =>
    cases h
    rfl
  next => cases h

theorem receiveAck_htons {t t' : Transmitter B} (a : SequenceNumber) (recvBuffer : ReceiveBuffer)
    (ht : t.receiveAck (some (receiveInto (htons a) recvBuffer)) = some t') :
    t' = { t with ackThread := .pushing a } := by
  have hfits : (htons a).length ≤ maxTransmissionUnit := by
    rw [htons_length]
    decide
  obtain ⟨hlen, hbytes⟩ := receiveInto_eq hfits recvBuffer
  have hread : deserialiseSeqNum 0 (receiveInto (htons a) recvBuffer).2.val = (true, a) := by
    rw [hbytes, deserialiseSeqNum_eq (by rw [List.length_append, htons_length]; omega), ntohs_htons]
  rw [Transmitter.receiveAck] at ht
  split at ht
  · simp only [hlen, htons_length, Nat.zero_lt_two, ↓reduceIte, hread] at ht
    exact (Option.some.inj ht).symm
  · cases ht

end Transmitter

end ArqBenchmark
