import ArqBenchmark.DataPacket

namespace ArqBenchmark

structure PacketInfo where
  firstTxTime : Time
  lastTxTime : Time
  sequenceNumber : SequenceNumber
deriving DecidableEq, Repr

structure TransmitBufferObject where
  packet : DataPacket
  info : PacketInfo
deriving DecidableEq, Repr

def TransmitBufferObject.updateLastTxTime (o : TransmitBufferObject) (now : Time) : TransmitBufferObject :=
  { o with info.lastTxTime := now }

def TransmitBufferObject.isEndOfTx (o : TransmitBufferObject) : Bool := o.packet.isEndOfTx

class RetransmissionBuffer (B : Type) where
  addPacket : B → TransmitBufferObject → Except Fault B
  tryGetPacketSpan : B → Clock → Except Fault (Option (List Byte) × B)
  readyForNewPacket : B → Bool
  packetsPending : B → Bool
  acknowledgePacket : B → SequenceNumber → Except Fault B

/-- `duration_cast<microseconds>(now - then).count() > timeoutInterval_.count()`, where the cast
truncates towards zero. -/
def isPacketTimedOut (timeoutInterval : ℤ) (now : Time) (o : TransmitBufferObject) : Bool :=
  timeoutInterval < (now - o.info.lastTxTime).tdiv 1000

namespace Rt

structure StopAndWait where
  timeoutInterval : ℤ
  retransmitPacket : Option TransmitBufferObject
deriving DecidableEq, Repr

namespace StopAndWait

def new (timeout : ℤ) : StopAndWait := ⟨timeout, none⟩

def addPacket (b : StopAndWait) (packet : TransmitBufferObject) : Except Fault StopAndWait :=
  if b.retransmitPacket.isSome then
    .error (.arqProtocolException "tried to add packet to S&W RT buffer but packet was already present")
  else .ok { b with retransmitPacket := some packet }

def tryGetPacketSpan (b : StopAndWait) (now : Clock) : Option (List Byte) × StopAndWait :=
  match b.retransmitPacket with
  | some packet =>
    if isPacketTimedOut b.timeoutInterval (now 0) packet then
      (some packet.packet.getReadSpan, { b with retransmitPacket := some (packet.updateLastTxTime (now 1)) })
    else (none, b)
  | none => (none, b)

def readyForNewPacket (b : StopAndWait) : Bool := !b.retransmitPacket.isSome

def packetsPending (b : StopAndWait) : Bool := b.retransmitPacket.isSome

def acknowledgePacket (b : StopAndWait) (ackSequenceNumber : SequenceNumber) : StopAndWait :=
  match b.retransmitPacket with
  | some packet =>
    if ackSequenceNumber = packet.info.sequenceNumber then { b with retransmitPacket := none } else b
  | none => b

end StopAndWait

instance : RetransmissionBuffer StopAndWait where
  addPacket := StopAndWait.addPacket
  tryGetPacketSpan b now := .ok (b.tryGetPacketSpan now)
  readyForNewPacket := StopAndWait.readyForNewPacket
  packetsPending := StopAndWait.packetsPending
  acknowledgePacket b a := .ok (b.acknowledgePacket a)

/-- The members of `rt::GoBackN` and `rt::SelectiveRepeat`, which differ in their messages only. -/
structure CircularBuffer where
  timeoutInterval : ℤ
  windowSize : UInt16
  buffer : List (Option TransmitBufferObject)
  startIdx : ℕ
  nextToAck : SequenceNumber
  packetsInBuffer : ℕ
deriving DecidableEq, Repr

/-- `++` and `--` of a `size_t`. -/
def increment (n : ℕ) : ℕ := (n + 1) % 2 ^ 64

def decrement (n : ℕ) : ℕ := (n + (2 ^ 64 - 1)) % 2 ^ 64

namespace CircularBuffer

def new (windowSize : UInt16) (timeout : ℤ) (firstSeqNum : SequenceNumber) : CircularBuffer where
  timeoutInterval := timeout
  windowSize := windowSize
  buffer := List.replicate windowSize.toNat none
  startIdx := 0
  nextToAck := firstSeqNum
  packetsInBuffer := 0

/-- The do-while loops over the slots of the buffer, from `startIdx_` round to `startIdx_`. -/
def walk {σ β : Type} (b : CircularBuffer) (body : ℕ → σ → Except Fault (σ ⊕ β)) (s : σ) :
    Except Fault (σ ⊕ β) :=
  Loops.doWhile b.startIdx (fun idx => modulo (idx + 1) b.windowSize.toNat) .endlessLoop body
    (b.windowSize.toNat + 1) b.startIdx s

def addSlot (b : CircularBuffer) (packet : TransmitBufferObject) (idx : ℕ) (_ : Unit) :
    Except Fault (Unit ⊕ CircularBuffer) := do
  match ← readAt b.buffer idx with
  | none =>
    let buffer ← writeAt b.buffer idx (some packet)
    pure (.inr { b with buffer := buffer, packetsInBuffer := increment b.packetsInBuffer })
  | some _ => pure (.inl ())

def addPacket (full : String) (b : CircularBuffer) (packet : TransmitBufferObject) :
    Except Fault CircularBuffer := do
  match ← b.walk (b.addSlot packet) () with
  | .inr b => pure b
  | .inl () => .error (.arqProtocolException full)

def packetsPending (b : CircularBuffer) : Bool := 0 < b.packetsInBuffer

def readyForNewPacket (b : CircularBuffer) : Bool := b.packetsInBuffer < b.windowSize.toNat

/-- `reads` counts the clock readings that the slots before this one have cost. -/
def trySlot (b : CircularBuffer) (now : Clock) (idx reads : ℕ) :
    Except Fault (ℕ ⊕ Option (List Byte) × CircularBuffer) := do
  match ← readAt b.buffer idx with
  | some packet =>
    if isPacketTimedOut b.timeoutInterval (now reads) packet then
      let buffer ← writeAt b.buffer idx (some (packet.updateLastTxTime (now (reads + 1))))
      pure (.inr (some packet.packet.getReadSpan, { b with buffer := buffer }))
    else pure (.inl (reads + 1))
  | none => pure (.inl reads)

def tryGetPacketSpan (b : CircularBuffer) (now : Clock) :
    Except Fault (Option (List Byte) × CircularBuffer) := do
  if b.packetsPending then
    match ← b.walk (b.trySlot now) 0 with
    | .inr r => pure r
    | .inl _ => pure (none, b)
  else pure (none, b)

/-- One turn of the for loop of `do_acknowledgePacket`. -/
def clearSlot (ackedSeqNum : SequenceNumber) (i : ℕ) (b : CircularBuffer) : Except Fault CircularBuffer := do
  let idx ← modulo (b.startIdx + i) b.windowSize.toNat
  if b.nextToAck.toNat + i ≤ ackedSeqNum.toNat then
    let buffer ← writeAt b.buffer idx none
    pure { b with buffer := buffer, packetsInBuffer := decrement b.packetsInBuffer }
  else pure b

def advance (ackedSeqNum : SequenceNumber) (b : CircularBuffer) : Except Fault CircularBuffer := do
  if b.nextToAck ≤ ackedSeqNum then
    let startIdx ← modulo (b.startIdx + (ackedSeqNum.toNat + 1 - b.nextToAck.toNat)) b.windowSize.toNat
    pure { b with startIdx := startIdx, nextToAck := ackedSeqNum + 1 }
  else pure b

def acknowledgePacket (b : CircularBuffer) (ackedSeqNum : SequenceNumber) : Except Fault CircularBuffer :=
  if b.nextToAck.toNat + b.windowSize.toNat ≤ ackedSeqNum.toNat then .ok b
  else if !b.packetsPending then .ok b
  else Loops.forRange (clearSlot ackedSeqNum) b.windowSize.toNat b >>= advance ackedSeqNum

end CircularBuffer

structure GoBackN where
  window : CircularBuffer
deriving DecidableEq, Repr

namespace GoBackN

def new (windowSize : UInt16) (timeout : ℤ) (firstSeqNum : SequenceNumber) : GoBackN :=
  ⟨.new windowSize timeout firstSeqNum⟩

def addPacket (b : GoBackN) (packet : TransmitBufferObject) : Except Fault GoBackN :=
  mk <$> b.window.addPacket "tried to add packet to Go-Back-N RT buffer, but buffer was full" packet

def tryGetPacketSpan (b : GoBackN) (now : Clock) : Except Fault (Option (List Byte) × GoBackN) :=
  Prod.map id mk <$> b.window.tryGetPacketSpan now

def readyForNewPacket (b : GoBackN) : Bool := b.window.readyForNewPacket

def packetsPending (b : GoBackN) : Bool := b.window.packetsPending

def acknowledgePacket (b : GoBackN) (ackedSeqNum : SequenceNumber) : Except Fault GoBackN :=
  mk <$> b.window.acknowledgePacket ackedSeqNum

end GoBackN

instance : RetransmissionBuffer GoBackN where
  addPacket := GoBackN.addPacket
  tryGetPacketSpan := GoBackN.tryGetPacketSpan
  readyForNewPacket := GoBackN.readyForNewPacket
  packetsPending := GoBackN.packetsPending
  acknowledgePacket := GoBackN.acknowledgePacket

structure SelectiveRepeat where
  window : CircularBuffer
deriving DecidableEq, Repr

namespace SelectiveRepeat

def new (windowSize : UInt16) (timeout : ℤ) (firstSeqNum : SequenceNumber) : SelectiveRepeat :=
  ⟨.new windowSize timeout firstSeqNum⟩

def addPacket (b : SelectiveRepeat) (packet : TransmitBufferObject) : Except Fault SelectiveRepeat :=
  mk <$> b.window.addPacket "tried to add packet to Selective Repeat RT buffer, but buffer was full" packet

def tryGetPacketSpan (b : SelectiveRepeat) (now : Clock) :
    Except Fault (Option (List Byte) × SelectiveRepeat) :=
  Prod.map id mk <$> b.window.tryGetPacketSpan now

def readyForNewPacket (b : SelectiveRepeat) : Bool := b.window.readyForNewPacket

def packetsPending (b : SelectiveRepeat) : Bool := b.window.packetsPending

def acknowledgePacket (b : SelectiveRepeat) (ackedSeqNum : SequenceNumber) : Except Fault SelectiveRepeat :=
  mk <$> b.window.acknowledgePacket ackedSeqNum

end SelectiveRepeat

instance : RetransmissionBuffer SelectiveRepeat where
  addPacket := SelectiveRepeat.addPacket
  tryGetPacketSpan := SelectiveRepeat.tryGetPacketSpan
  readyForNewPacket := SelectiveRepeat.readyForNewPacket
  packetsPending := SelectiveRepeat.packetsPending
  acknowledgePacket := SelectiveRepeat.acknowledgePacket

end Rt

end ArqBenchmark
