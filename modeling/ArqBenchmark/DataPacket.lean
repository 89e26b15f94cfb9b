import ArqBenchmark.Loops
import ArqBenchmark.SequenceNumber

namespace ArqBenchmark

structure DataPacketHeader where
  id : ConversationID
  sequenceNumber : SequenceNumber
  length : UInt16
deriving DecidableEq, Repr

structure DataPacket where
  header : DataPacketHeader
  data : List Byte
deriving DecidableEq, Repr

def maxTransmissionUnit : ℕ := 1500

namespace DataPacketHeader

def packedSize : ℕ := 5

def serialise (h : DataPacketHeader) (buffer : List Byte) : Bool × List Byte :=
  if buffer.length < packedSize then (false, buffer)
  else
    let buffer := overwrite buffer 0 [h.id]
    match serialiseSeqNum h.sequenceNumber (buffer.drop 1) with
    | (false, rest) => (false, buffer.take 1 ++ rest)
    | (true, rest) => (true, overwrite (buffer.take 1 ++ rest) 3 (htons h.length))

def deserialise (h : DataPacketHeader) (buffer : List Byte) : Bool × DataPacketHeader :=
  if buffer.length < packedSize then (false, h)
  else
    let h := { h with id := buffer.headD 0 }
    match deserialiseSeqNum h.sequenceNumber (buffer.drop 1) with
    | (false, sn) => (false, { h with sequenceNumber := sn })
    | (true, sn) => (true, { h with sequenceNumber := sn, length := ntohs (buffer.drop 3) })

/-- What `serialise` puts into the first bytes of a long enough buffer. -/
def packed (h : DataPacketHeader) : List Byte := h.id :: (htons h.sequenceNumber ++ htons h.length)

@[simp] theorem packed_length (h : DataPacketHeader) : h.packed.length = packedSize := rfl

theorem serialise_eq (h : DataPacketHeader) {buffer : List Byte} (hb : packedSize ≤ buffer.length) :
    h.serialise buffer = (true, h.packed ++ buffer.drop packedSize) := by
  match buffer, hb with
  | _ :: _ :: _ :: _ :: _ :: rest, _ =>
    have hsize : ¬ rest.length + 1 + 1 + 1 + 1 + 1 < 5 := by omega
    have htwo : ¬ rest.length + 1 + 1 + 1 + 1 < 2 := by omega
    simp [serialise, packedSize, serialiseSeqNum, overwrite, packed, htons, hsize, htwo]

def ofBytes (buffer : List Byte) : DataPacketHeader :=
  ⟨buffer.headD 0, ntohs (buffer.drop 1), ntohs (buffer.drop 3)⟩

theorem deserialise_eq (h : DataPacketHeader) {buffer : List Byte} (hb : packedSize ≤ buffer.length) :
    h.deserialise buffer = (true, ofBytes buffer) := by
  have htwo : 2 ≤ (buffer.drop 1).length := by
    rw [List.length_drop]
    unfold packedSize at hb
    omega
  simp only [deserialise, Nat.not_lt.mpr hb, ↓reduceIte, deserialiseSeqNum_eq htwo]
  rfl

theorem ofBytes_packed (h : DataPacketHeader) (rest : List Byte) : ofBytes (h.packed ++ rest) = h := by
  have hsn : ntohs ((h.packed ++ rest).drop 1) = h.sequenceNumber := by
    simp only [packed, List.cons_append, List.drop_succ_cons, List.drop_zero, List.append_assoc,
      ntohs_htons]
  have hlen : ntohs ((h.packed ++ rest).drop 3) = h.length := by
    simp only [packed, List.cons_append, List.drop_succ_cons, htons, List.drop_zero, List.nil_append]
    exact ntohs_htons h.length rest
  simp only [ofBytes, hsn, hlen]
  rfl

theorem deserialise_packed (h h₀ : DataPacketHeader) (rest : List Byte) :
    h₀.deserialise (h.packed ++ rest) = (true, h) := by
  rw [deserialise_eq h₀ (by rw [List.length_append, packed_length]; omega), ofBytes_packed]

end DataPacketHeader

open DataPacketHeader (packedSize)

def dataPktMaxPayloadSize : ℕ := maxTransmissionUnit - packedSize

namespace DataPacket

def getHeader (p : DataPacket) : DataPacketHeader := p.header

def isEndOfTx (p : DataPacket) : Bool := p.header.length == 0

def getReadSpan (p : DataPacket) : List Byte := p.data

def getHeaderSpan (p : DataPacket) : Except Fault (List Byte) := subspan p.data 0 packedSize

def getPayloadReadSpan (p : DataPacket) : List Byte := p.data.drop packedSize

def serialiseHeader (p : DataPacket) : Except Fault (Bool × DataPacket) := do
  let span ← p.getHeaderSpan
  let (ret, span) := p.header.serialise span
  pure (ret, { p with data := overwrite p.data 0 span })

def deserialiseHeader (p : DataPacket) : Except Fault (Bool × DataPacket) := do
  let span ← p.getHeaderSpan
  let (ret, header) := p.header.deserialise span
  pure (ret, { p with header := header })

/-- `auto ret = serialiseHeader(); assert(ret);`, the end of every mutator. -/
def reserialise (p : DataPacket) : Except Fault DataPacket := do
  let (ret, p) ← p.serialiseHeader
  if ret then pure p else .error .assertionFailed

def updateSequenceNumber (p : DataPacket) (seqNum : SequenceNumber) : Except Fault DataPacket :=
  reserialise { p with header.sequenceNumber := seqNum }

def updateConversationID (p : DataPacket) (convID : ConversationID) : Except Fault DataPacket :=
  reserialise { p with header.id := convID }

/-- `std::vector::resize`: bytes that are added are zero. -/
def resize (data : List Byte) (size : ℕ) : List Byte :=
  data.take size ++ List.replicate (size - data.length) 0

def updateDataLength (p : DataPacket) (len : ℕ) : Except Fault DataPacket :=
  let length := UInt16.ofNat (if dataPktMaxPayloadSize < len then dataPktMaxPayloadSize else len)
  reserialise { header := { p.header with length := length }
                data := resize p.data (packedSize + length.toNat) }

def updateHeader (p : DataPacket) (hdr : DataPacketHeader) : Except Fault DataPacket :=
  updateDataLength { p with header := hdr } hdr.length.toNat

def writePayload (p : DataPacket) (i : ℕ) (b : Byte) : Except Fault DataPacket := do
  pure { p with data := ← writeAt p.data (packedSize + i) b }

def blank : DataPacket := ⟨⟨0, 0, 0⟩, []⟩

def default : Except Fault DataPacket := blank.updateDataLength 0

def ofHeader (hdr : DataPacketHeader) : Except Fault DataPacket := blank.updateHeader hdr

def ofSpan (serialData : List Byte) : Except Fault DataPacket := do
  let (ret, p) ← deserialiseHeader { blank with data := serialData }
  if ret then pure p
  else .error (.dataPacketException "serialData is not long enough to contain header")

def ofVector (serialData : List Byte) : Except Fault DataPacket := do
  let (ret, p) ← deserialiseHeader { blank with data := serialData }
  if ret then pure p
  else .error (.dataPacketException "serialData is not long enough to contain header")

end DataPacket

end ArqBenchmark
