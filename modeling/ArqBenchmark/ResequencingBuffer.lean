import ArqBenchmark.PacketBuffers

namespace ArqBenchmark

/-- The CRTP interface of the resequencing buffers. `accepts` says when `addPacket` keeps the packet. -/
class ResequencingBuffer (R : Type) where
  addPacket : R → DataPacket → Except Fault (Option SequenceNumber × R)
  packetsPending : R → Bool
  getNextPacket : R → Option DataPacket × R
  accepts : R → DataPacket → Bool

namespace Rs

structure StopAndWait where
  expectedPacketSeqNum : SequenceNumber
  packetForDelivery : Option DataPacket
deriving DecidableEq, Repr

namespace StopAndWait

def new (firstSeqNum : SequenceNumber) : StopAndWait := ⟨firstSeqNum, none⟩

def addPacket (b : StopAndWait) (packet : DataPacket) : Option SequenceNumber × StopAndWait :=
  let receivedSequenceNumber := packet.getHeader.sequenceNumber
  if b.packetForDelivery.isSome then (none, b)
  else if receivedSequenceNumber = b.expectedPacketSeqNum then
    (some receivedSequenceNumber, { b with packetForDelivery := some packet })
  else if receivedSequenceNumber < b.expectedPacketSeqNum then (some receivedSequenceNumber, b)
  else (none, b)

def packetsPending (b : StopAndWait) : Bool := b.packetForDelivery.isSome

def getNextPacket (b : StopAndWait) : Option DataPacket × StopAndWait :=
  match b.packetForDelivery with
  | some packet =>
    (some packet, { packetForDelivery := none, expectedPacketSeqNum := b.expectedPacketSeqNum + 1 })
  | none => (none, b)

def accepts (b : StopAndWait) (packet : DataPacket) : Bool :=
  !b.packetForDelivery.isSome && packet.getHeader.sequenceNumber == b.expectedPacketSeqNum

end StopAndWait

instance : ResequencingBuffer StopAndWait where
  addPacket b packet := .ok (b.addPacket packet)
  packetsPending := StopAndWait.packetsPending
  getNextPacket := StopAndWait.getNextPacket
  accepts := StopAndWait.accepts

structure GoBackN where
  shadowBuffer : SafeQueue DataPacket
  nextSequenceNumber : SequenceNumber
  canSendAcks : Bool
deriving DecidableEq, Repr

namespace GoBackN

def new (firstSeqNum : SequenceNumber) : GoBackN := ⟨[], firstSeqNum, false⟩

def addPacket (b : GoBackN) (packet : DataPacket) : Option SequenceNumber × GoBackN :=
  let receivedSeqNum := packet.getHeader.sequenceNumber
  if receivedSeqNum = b.nextSequenceNumber then
    (some receivedSeqNum,
      { canSendAcks := true
        nextSequenceNumber := b.nextSequenceNumber + 1
        shadowBuffer := b.shadowBuffer.push packet })
  else (if b.canSendAcks then some (b.nextSequenceNumber - 1) else none, b)

def packetsPending (b : GoBackN) : Bool := !b.shadowBuffer.isEmpty

def getNextPacket (b : GoBackN) : Option DataPacket × GoBackN :=
  let (packet, shadowBuffer) := b.shadowBuffer.tryPop
  (packet, { b with shadowBuffer := shadowBuffer })

def accepts (b : GoBackN) (packet : DataPacket) : Bool :=
  packet.getHeader.sequenceNumber == b.nextSequenceNumber

end GoBackN

instance : ResequencingBuffer GoBackN where
  addPacket b packet := .ok (b.addPacket packet)
  packetsPending := GoBackN.packetsPending
  getNextPacket := GoBackN.getNextPacket
  accepts := GoBackN.accepts

structure SelectiveRepeat where
  windowSize : UInt16
  buffer : List (Option DataPacket)
  startIdx : ℕ
  earliestExpected : SequenceNumber
  packetsInBuffer : ℕ
  shadowBuffer : SafeQueue DataPacket
  canSendAcks : Bool
deriving DecidableEq, Repr

def arithmeticModulo (a b : ℤ) : ℤ :=
  let out := a.tmod b
  if 0 ≤ out then out else out + b

/-- `-` of two `size_t`. -/
def sizeSub (a b : ℕ) : ℕ := (a + (2 ^ 64 - b)) % 2 ^ 64

namespace SelectiveRepeat

def new (windowSize : UInt16) (firstSeqNum : SequenceNumber) : SelectiveRepeat where
  windowSize := windowSize
  buffer := List.replicate windowSize.toNat none
  startIdx := 0
  earliestExpected := firstSeqNum
  packetsInBuffer := 0
  shadowBuffer := []
  canSendAcks := false

/-- One turn of the do-while loop of `updateBuffer`, left with the new start index. -/
def pushSlot (idx : ℕ) (b : SelectiveRepeat) : Except Fault (SelectiveRepeat ⊕ SelectiveRepeat × ℕ) := do
  match ← readAt b.buffer idx with
  | none => pure (.inr (b, idx))
  | some packet =>
    let shadowBuffer := b.shadowBuffer.push packet
    let buffer ← writeAt b.buffer idx none
    if b.packetsInBuffer = 0 then .error .assertionFailed
    else
      pure (.inl { b with
        shadowBuffer := shadowBuffer
        buffer := buffer
        packetsInBuffer := Rt.decrement b.packetsInBuffer })

/-- The end of `updateBuffer`: the window starts at the first missing packet. -/
def moveStart (b : SelectiveRepeat) (newStartIdx : ℕ) : SelectiveRepeat :=
  if newStartIdx = b.startIdx then b
  else
    let moved :=
      if b.startIdx < newStartIdx then sizeSub newStartIdx b.startIdx
      else (sizeSub newStartIdx b.startIdx + b.windowSize.toNat) % 2 ^ 64
    { b with
      earliestExpected := b.earliestExpected + UInt16.ofNat moved
      startIdx := newStartIdx }

def updateBuffer (b : SelectiveRepeat) : Except Fault SelectiveRepeat := do
  match ← Loops.doWhile b.startIdx (fun idx => modulo (idx + 1) b.windowSize.toNat) .endlessLoop pushSlot
      (b.windowSize.toNat + 1) b.startIdx b with
  | .inr (b', newStartIdx) => pure (b'.moveStart newStartIdx)
  -- No packet is missing, so `newStartIdx` is still `startIdx_`.
  | .inl b' => pure (b'.moveStart b.startIdx)

def ack (b : SelectiveRepeat) : Option SequenceNumber :=
  if b.canSendAcks then some (b.earliestExpected - 1) else none

def outsideWindow (b : SelectiveRepeat) (receivedSeqNum : SequenceNumber) : Bool :=
  receivedSeqNum < b.earliestExpected ||
    b.earliestExpected.toNat + b.windowSize.toNat ≤ receivedSeqNum.toNat

def insertionIdx (b : SelectiveRepeat) (receivedSeqNum : SequenceNumber) : ℕ :=
  (arithmeticModulo (b.startIdx + receivedSeqNum.toNat - b.earliestExpected.toNat) b.windowSize.toNat).toNat

def addPacket (b : SelectiveRepeat) (packet : DataPacket) :
    Except Fault (Option SequenceNumber × SelectiveRepeat) := do
  let receivedSeqNum := packet.getHeader.sequenceNumber
  if b.outsideWindow receivedSeqNum then pure (b.ack, b)
  else
    let b := { b with canSendAcks := true }
    let insertionIdx := b.insertionIdx receivedSeqNum
    match ← readAt b.buffer insertionIdx with
    | none =>
      let buffer ← writeAt b.buffer insertionIdx (some packet)
      let b ← updateBuffer { b with buffer := buffer, packetsInBuffer := Rt.increment b.packetsInBuffer }
      pure (b.ack, b)
    | some _ => pure (b.ack, b)

def packetsPending (b : SelectiveRepeat) : Bool := decide (0 < b.packetsInBuffer) || !b.shadowBuffer.isEmpty

def getNextPacket (b : SelectiveRepeat) : Option DataPacket × SelectiveRepeat :=
  let (packet, shadowBuffer) := b.shadowBuffer.tryPop
  (packet, { b with shadowBuffer := shadowBuffer })

def accepts (b : SelectiveRepeat) (packet : DataPacket) : Bool :=
  !b.outsideWindow packet.getHeader.sequenceNumber &&
    b.buffer[b.insertionIdx packet.getHeader.sequenceNumber]? == some none

end SelectiveRepeat

instance : ResequencingBuffer SelectiveRepeat where
  addPacket := SelectiveRepeat.addPacket
  packetsPending := SelectiveRepeat.packetsPending
  getNextPacket := SelectiveRepeat.getNextPacket
  accepts := SelectiveRepeat.accepts

inductive RsCall
  | addPacket (packet : DataPacket)
  | getNextPacket

end Rs

end ArqBenchmark
