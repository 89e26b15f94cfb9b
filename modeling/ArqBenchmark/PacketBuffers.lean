import ArqBenchmark.PacketFraming
import ArqBenchmark.RetransmissionBuffer

namespace ArqBenchmark

/-- `util::SafeQueue`: every member function holds the mutex, so each is one step. -/
abbrev SafeQueue (α : Type) := List α

namespace SafeQueue

variable {α : Type}

def push (queue : SafeQueue α) (value : α) : SafeQueue α := queue ++ [value]

def tryPop : SafeQueue α → Option α × SafeQueue α
  | [] => (none, [])
  | value :: queue => (some value, queue)

end SafeQueue

structure InputBuffer where
  inputPackets : SafeQueue TransmitBufferObject
  lastSequenceNumber : SequenceNumber
deriving DecidableEq, Repr

namespace InputBuffer

def new (firstSeqNum : SequenceNumber) : InputBuffer := ⟨[], firstSeqNum - 1⟩

def getNextInfo (b : InputBuffer) (now : Clock) : PacketInfo × InputBuffer :=
  let sequenceNumber := b.lastSequenceNumber + 1
  (⟨now 0, now 0, sequenceNumber⟩, { b with lastSequenceNumber := sequenceNumber })

def addPacket (b : InputBuffer) (now : Clock) (packet : DataPacket) : Except Fault InputBuffer := do
  let (info, b) := b.getNextInfo now
  let packet ← packet.updateSequenceNumber info.sequenceNumber
  pure { b with inputPackets := b.inputPackets.push ⟨packet, info⟩ }

def tryGetPacket (b : InputBuffer) : Option TransmitBufferObject × InputBuffer :=
  let (packet, inputPackets) := b.inputPackets.tryPop
  (packet, { b with inputPackets := inputPackets })

theorem addPacket_eq {b : InputBuffer} {packet : DataPacket} (h : packet.Framed) (now : Clock) :
    b.addPacket now packet = .ok
      { inputPackets := b.inputPackets ++
          [⟨packet.withHeader { packet.header with sequenceNumber := b.lastSequenceNumber + 1 },
            ⟨now 0, now 0, b.lastSequenceNumber + 1⟩⟩]
        lastSequenceNumber := b.lastSequenceNumber + 1 } := by
  simp only [addPacket, getNextInfo, DataPacket.updateSequenceNumber_eq h, Loops.ok_bind]
  rfl

end InputBuffer

structure ReceiveBufferObject where
  packet : DataPacket
  rxTime : Time
deriving DecidableEq, Repr

structure OutputBuffer where
  outputPackets : SafeQueue ReceiveBufferObject
  nextSequenceNumber : SequenceNumber
deriving DecidableEq, Repr

namespace OutputBuffer

def new : OutputBuffer := ⟨[], firstSequenceNumber⟩

def addPacket (b : OutputBuffer) (now : Clock) (packet : DataPacket) : Bool × OutputBuffer :=
  if packet.getHeader.sequenceNumber = b.nextSequenceNumber then
    (true, { outputPackets := b.outputPackets.push ⟨packet, now 0⟩
             nextSequenceNumber := b.nextSequenceNumber + 1 })
  else (false, b)

def tryGetPacket (b : OutputBuffer) : Option ReceiveBufferObject × OutputBuffer :=
  let (packet, outputPackets) := b.outputPackets.tryPop
  (packet, { b with outputPackets := outputPackets })

theorem addPacket_expected {b : OutputBuffer} {packet : DataPacket} (now : Clock)
    (h : packet.header.sequenceNumber = b.nextSequenceNumber) :
    b.addPacket now packet = (true,
      { outputPackets := b.outputPackets ++ [⟨packet, now 0⟩]
        nextSequenceNumber := b.nextSequenceNumber + 1 }) :=
  if_pos h

theorem addPacket_unexpected {b : OutputBuffer} {packet : DataPacket} (now : Clock)
    (h : packet.header.sequenceNumber ≠ b.nextSequenceNumber) : b.addPacket now packet = (false, b) :=
  if_neg h

end OutputBuffer

end ArqBenchmark
