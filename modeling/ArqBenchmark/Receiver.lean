import ArqBenchmark.ResequencingBuffer

namespace ArqBenchmark

structure ControlPacket where
  sequenceNumber : SequenceNumber
deriving DecidableEq, Repr

def ControlPacket.serialise (p : ControlPacket) (buffer : List Byte) : Bool × List Byte :=
  serialiseSeqNum p.sequenceNumber buffer

inductive ResequencingPoint
  | loop
  | receiving
  | received (packet : DataPacket)
  | adding (packet : DataPacket)
  | pushing (ack : SequenceNumber)
  | delivering
  | exited
  | terminated (fault : Fault)
deriving DecidableEq, Repr

inductive RxAckPoint
  | loop
  | popping
  | sending (sequenceNumberToAck : SequenceNumber)
  | sent (sequenceNumberToAck : SequenceNumber)
  | exited
deriving DecidableEq, Repr

structure Receiver (R : Type) where
  outputBuffer : OutputBuffer
  resequencingBuffer : R
  ackQueue : SafeQueue SequenceNumber
  ackedEndOfTx : Bool
  endOfTxSn : Option SequenceNumber
  resequencingThread : ResequencingPoint
  ackThread : RxAckPoint
deriving DecidableEq, Repr

namespace Receiver

variable {R : Type}

def new (rsBuffer : R) : Receiver R where
  outputBuffer := .new
  resequencingBuffer := rsBuffer
  ackQueue := []
  ackedEndOfTx := false
  endOfTxSn := none
  resequencingThread := .loop
  ackThread := .loop

def tryGetPacket (r : Receiver R) : Option ReceiveBufferObject × Receiver R :=
  let (packet, outputBuffer) := r.outputBuffer.tryGetPacket
  (packet, { r with outputBuffer := outputBuffer })

/-- `receivePacket` once `rxFn_` has returned, with nothing when it fails or times out. -/
def receivePacket (r : Receiver R) (received : Option (ℕ × ReceiveBuffer)) : Option (Receiver R) :=
  match r.resequencingThread with
  | .receiving =>
    match received with
    | none => some { r with resequencingThread := .delivering }
    | some (bytesRxed, recvBuffer) =>
      if bytesRxed = 0 then some { r with resequencingThread := .delivering }
      else
        match DataPacket.ofSpan recvBuffer.val with
        | .ok packet => some { r with resequencingThread := .received packet }
        | .error fault => some { r with resequencingThread := .terminated fault }
  | _ => none

section ResequencingThread

variable [ResequencingBuffer R]

def addPacket (r : Receiver R) (packet : DataPacket) : Receiver R × Option DataPacket :=
  match ResequencingBuffer.addPacket r.resequencingBuffer packet with
  | .ok (ack, b) =>
    ({ r with
      resequencingBuffer := b
      resequencingThread := match ack with
        | some ack => .pushing ack
        | none => .delivering },
      if ResequencingBuffer.accepts r.resequencingBuffer packet then some packet else none)
  | .error fault => ({ r with resequencingThread := .terminated fault }, none)

def deliverPacket (r : Receiver R) (now : Clock) : Receiver R × Option DataPacket :=
  match ResequencingBuffer.getNextPacket r.resequencingBuffer with
  | (some packetForDelivery, b) =>
    let (added, outputBuffer) := r.outputBuffer.addPacket now packetForDelivery
    ({ r with resequencingBuffer := b, outputBuffer := outputBuffer },
      if added then some packetForDelivery else none)
  | (none, b) => ({ r with resequencingBuffer := b, resequencingThread := .loop }, none)

/-- The next step of the resequencing thread, with the packets that the resequencing buffer and the
output buffer accept. -/
def resequencingStep (r : Receiver R) (now : Clock) :
    Option (Receiver R × Option DataPacket × Option DataPacket) :=
  match r.resequencingThread with
  | .loop =>
    some ({ r with resequencingThread := if r.ackedEndOfTx then .exited else .receiving }, none, none)
  | .received packet =>
    some ({ r with
      endOfTxSn := if packet.isEndOfTx then some packet.getHeader.sequenceNumber else r.endOfTxSn
      resequencingThread := .adding packet }, none, none)
  | .adding packet =>
    let (r, accepted) := r.addPacket packet
    some (r, accepted, none)
  | .pushing ack =>
    some ({ r with ackQueue := r.ackQueue.push ack, resequencingThread := .delivering }, none, none)
  | .delivering =>
    let (r, delivered) := r.deliverPacket now
    some (r, none, delivered)
  | .receiving => none
  | .exited => none
  | .terminated _ => none

inductive Resequences (r : Receiver R) (now : Clock) : Receiver R → Option DataPacket → Option DataPacket → Prop
  | loop : r.resequencingThread = .loop →
      Resequences r now { r with resequencingThread := if r.ackedEndOfTx then .exited else .receiving } none none
  | received {p : DataPacket} : r.resequencingThread = .received p →
      Resequences r now { r with
        endOfTxSn := if p.isEndOfTx then some p.getHeader.sequenceNumber else r.endOfTxSn
        resequencingThread := .adding p } none none
  | added {p : DataPacket} {ack : Option SequenceNumber} {b : R} : r.resequencingThread = .adding p →
      ResequencingBuffer.addPacket r.resequencingBuffer p = .ok (ack, b) →
      Resequences r now { r with
        resequencingBuffer := b
        resequencingThread := (ack.map ResequencingPoint.pushing).getD .delivering }
        (if ResequencingBuffer.accepts r.resequencingBuffer p then some p else none) none
  | faulted {p : DataPacket} {fault : Fault} : r.resequencingThread = .adding p →
      ResequencingBuffer.addPacket r.resequencingBuffer p = .error fault →
      Resequences r now { r with resequencingThread := .terminated fault } none none
  | pushed {ack : SequenceNumber} : r.resequencingThread = .pushing ack →
      Resequences r now { r with ackQueue := r.ackQueue.push ack, resequencingThread := .delivering } none none
  | delivered {p : DataPacket} {b : R} : r.resequencingThread = .delivering →
      ResequencingBuffer.getNextPacket r.resequencingBuffer = (some p, b) →
      Resequences r now { r with
        resequencingBuffer := b
        outputBuffer := (r.outputBuffer.addPacket now p).2 } none
        (if (r.outputBuffer.addPacket now p).1 then some p else none)
  | drained {b : R} : r.resequencingThread = .delivering →
      ResequencingBuffer.getNextPacket r.resequencingBuffer = (none, b) →
      Resequences r now { r with resequencingBuffer := b, resequencingThread := .loop } none none

theorem resequencingStep_resequences {r r' : Receiver R} {now : Clock} {accepted delivered : Option DataPacket}
    (h : r.resequencingStep now = some (r', accepted, delivered)) :
    r.Resequences now r' accepted delivered := by
  rw [resequencingStep] at h
  split at h
  next hpoint =>
    cases h
    exact .loop hpoint
  next p hpoint =>
    cases h
    exact .received hpoint
  next p hpoint =>
    rcases hadd : ResequencingBuffer.addPacket r.resequencingBuffer p with fault | ⟨ack, b⟩
    · simp only [addPacket, hadd] at h
      cases h
      exact .faulted hpoint hadd
    · simp only [addPacket, hadd] at h
      have hadded : r.Resequences now _ _ _ := .added hpoint hadd
      cases ack <;> cases h <;> exact hadded
  next ack hpoint =>
    cases h
    exact .pushed hpoint
  next hpoint =>
    rcases hnext : ResequencingBuffer.getNextPacket r.resequencingBuffer with ⟨_ | p, b⟩
    · simp only [deliverPacket, hnext] at h
      cases h
      exact .drained hpoint hnext
    · simp only [deliverPacket, hnext] at h
      cases h
      exact .delivered hpoint hnext
  all_goals cases h

end ResequencingThread

def sendAck (sequenceNumberToAck : SequenceNumber) : Option (List Byte) :=
  match ControlPacket.serialise ⟨sequenceNumberToAck⟩ [0, 0] with
  | (true, sendBuffer) => some sendBuffer
  | (false, _) => none

def ackThreadStep (r : Receiver R) : Option (Receiver R × Option (List Byte)) :=
  match r.ackThread with
  | .loop => some ({ r with ackThread := if r.ackedEndOfTx then .exited else .popping }, none)
  | .popping =>
    match r.ackQueue.tryPop with
    | (some nextToAck, ackQueue) =>
      some ({ r with ackQueue := ackQueue, ackThread := .sending nextToAck }, none)
    | (none, _) => some ({ r with ackThread := .loop }, none)
  | .sending nextToAck => some ({ r with ackThread := .sent nextToAck }, sendAck nextToAck)
  | .sent nextToAck =>
    some ({ r with
      ackedEndOfTx := r.ackedEndOfTx || r.endOfTxSn == some nextToAck
      ackThread := .loop }, none)
  | .exited => none

theorem sendAck_eq (a : SequenceNumber) : sendAck a = some (htons a) := by
  rw [sendAck, ControlPacket.serialise, serialiseSeqNum_eq (by decide)]
  simp

inductive SendsAcks (r : Receiver R) : Receiver R → Option (List Byte) → Prop
  | loop : r.ackThread = .loop →
      SendsAcks r { r with ackThread := if r.ackedEndOfTx then .exited else .popping } none
  | popped {a : SequenceNumber} {queue : SafeQueue SequenceNumber} : r.ackThread = .popping →
      r.ackQueue = a :: queue → SendsAcks r { r with ackQueue := queue, ackThread := .sending a } none
  | idle : r.ackThread = .popping → r.ackQueue = [] → SendsAcks r { r with ackThread := .loop } none
  | sending {a : SequenceNumber} : r.ackThread = .sending a →
      SendsAcks r { r with ackThread := .sent a } (some (htons a))
  | sent {a : SequenceNumber} : r.ackThread = .sent a →
      SendsAcks r { r with ackedEndOfTx := r.ackedEndOfTx || r.endOfTxSn == some a, ackThread := .loop } none

theorem ackThreadStep_sendsAcks {r r' : Receiver R} {d : Option (List Byte)}
    (h : r.ackThreadStep = some (r', d)) : r.SendsAcks r' d := by
  rw [ackThreadStep] at h
  split at h
  next hpoint =>
    cases h
    exact .loop hpoint
  next hpoint =>
    cases hqueue : r.ackQueue with
    | nil =>
      simp only [hqueue, SafeQueue.tryPop] at h
      cases h
      simpa only [hqueue] using SendsAcks.idle hpoint hqueue
    | cons a queue =>
      simp only [hqueue, SafeQueue.tryPop] at h
      cases h
      exact .popped hpoint hqueue
  next a hpoint =>
    rw [sendAck_eq] at h
    cases h
    exact .sending hpoint
  next a hpoint =>
    cases h
    exact .sent hpoint
  next => cases h

theorem receivePacket_point {r r' : Receiver R} {received : Option (ℕ × ReceiveBuffer)}
    (h : r.receivePacket received = some r') : r.resequencingThread = .receiving ∧
      ∃ point, r' = { r with resequencingThread := point } ∧
        (point = .delivering ∨ (∃ p, point = .received p) ∨ ∃ fault, point = .terminated fault) := by
  unfold receivePacket at h
  split at h
  next hpoint =>
    refine ⟨hpoint, ?_⟩
    split at h
    · cases h
      exact ⟨_, rfl, .inl rfl⟩
    · split at h
      · cases h
        exact ⟨_, rfl, .inl rfl⟩
      · split at h
        · cases h
          exact ⟨_, rfl, .inr (.inl ⟨_, rfl⟩)⟩
        · cases h
          exact ⟨_, rfl, .inr (.inr ⟨_, rfl⟩)⟩
  next => cases h

theorem receivePacket_none {r r' : Receiver R} (h : r.receivePacket none = some r') :
    r' = { r with resequencingThread := .delivering } := by
  rw [receivePacket] at h
  split at h
  next =>
    cases h
    rfl
  next => cases h

theorem receivePacket_copy {r r' : Receiver R} {q : DataPacket} (hq : q.Framed) (recvBuffer : ReceiveBuffer)
    (hr : r.receivePacket (some (receiveInto q.data recvBuffer)) = some r') :
    ∃ p, p.IsCopy q ∧ r' = { r with resequencingThread := .received p } := by
  obtain ⟨hlen, hbytes⟩ := receiveInto_eq hq.data_length_le recvBuffer
  obtain ⟨p, hp, hcopy⟩ := DataPacket.ofSpan_copy hq (recvBuffer.val.drop q.data.length)
  have hne : q.data.length ≠ 0 := by
    rw [hq.data_length, DataPacketHeader.packedSize]
    omega
  rw [← hbytes] at hp
  rw [Receiver.receivePacket] at hr
  split at hr
  · simp only [hlen, hne, ↓reduceIte, hp] at hr
    exact ⟨p, hcopy, (Option.some.inj hr).symm⟩
  · cases hr

end Receiver

end ArqBenchmark
