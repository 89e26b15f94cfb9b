import ArqBenchmark.FixedFormat
import ArqBenchmark.PacketConstruction
import ArqBenchmark.Receiver

namespace ArqBenchmark

open DataPacketHeader (packedSize)
open FixedFormat (Format Exact)

def ControlPacket.packedSize : ℕ := 2

def ControlPacket.deserialise (p : ControlPacket) (buffer : List Byte) : Bool × ControlPacket :=
  let (ret, sn) := deserialiseSeqNum p.sequenceNumber buffer
  (ret, { p with sequenceNumber := sn })

theorem htons_ntohs_take {buffer : List Byte} (h : 2 ≤ buffer.length) :
    htons (ntohs buffer) = buffer.take 2 := by
  match buffer, h with
  | hi :: lo :: rest, _ => exact htons_ntohs hi lo rest

def sequenceNumberFormat : Format SequenceNumber Byte 2 where
  encode := htons
  decode := ntohs
  encode_length := htons_length
  decode_encode := ntohs_htons
  encode_decode _ := htons_ntohs_take

theorem sequenceNumber_implemented : sequenceNumberFormat.Implemented serialiseSeqNum deserialiseSeqNum where
  serialise_short _ _ h := if_pos h
  serialise_long sn _ h := serialiseSeqNum_eq h sn
  deserialise_short _ _ h := if_pos h
  deserialise_long sn _ h := deserialiseSeqNum_eq h sn

namespace ControlPacket

def format : Format ControlPacket Byte ControlPacket.packedSize where
  encode p := htons p.sequenceNumber
  decode buffer := ⟨ntohs buffer⟩
  encode_length p := htons_length p.sequenceNumber
  decode_encode p rest := by rw [ntohs_htons]
  encode_decode _ := htons_ntohs_take

theorem implemented : format.Implemented ControlPacket.serialise ControlPacket.deserialise where
  serialise_short p := sequenceNumber_implemented.serialise_short p.sequenceNumber
  serialise_long p := sequenceNumber_implemented.serialise_long p.sequenceNumber
  deserialise_short p b h := by
    rw [ControlPacket.deserialise, sequenceNumber_implemented.deserialise_short _ b h]
  deserialise_long p b h := by
    rw [ControlPacket.deserialise, sequenceNumber_implemented.deserialise_long _ b h]
    rfl

end ControlPacket

namespace DataPacketHeader

theorem packed_ofBytes {buffer : List Byte} (h : packedSize ≤ buffer.length) :
    (ofBytes buffer).packed = buffer.take packedSize := by
  match buffer, h with
  | id :: sn₁ :: sn₂ :: len₁ :: len₂ :: rest, _ =>
    change id :: (htons (ntohs (sn₁ :: sn₂ :: len₁ :: len₂ :: rest)) ++
      htons (ntohs (len₁ :: len₂ :: rest))) = _
    rw [htons_ntohs, htons_ntohs]
    rfl

def format : Format DataPacketHeader Byte packedSize where
  encode := packed
  decode := ofBytes
  encode_length := packed_length
  decode_encode := ofBytes_packed
  encode_decode _ := packed_ofBytes

theorem implemented : format.Implemented serialise deserialise where
  serialise_short _ _ h := if_pos h
  serialise_long h _ hb := h.serialise_eq hb
  deserialise_short _ _ h := if_pos h
  deserialise_long h _ hb := h.deserialise_eq hb

end DataPacketHeader

/-- A header is its ID, SN and length, a control packet its SN, both in network byte order. -/
theorem wire_formats_exact :
    Exact packedSize (fun h : DataPacketHeader => h.id :: (htons h.sequenceNumber ++ htons h.length))
      DataPacketHeader.serialise DataPacketHeader.deserialise ∧
    Exact ControlPacket.packedSize (fun c : ControlPacket => htons c.sequenceNumber)
      ControlPacket.serialise ControlPacket.deserialise :=
  ⟨DataPacketHeader.implemented.exact, ControlPacket.implemented.exact⟩

example : (DataPacketHeader.mk 1 258 772).serialise [0, 0, 0, 0, 0, 9] = (true, [1, 1, 2, 3, 4, 9]) := by decide

end ArqBenchmark
