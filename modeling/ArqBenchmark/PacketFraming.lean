import ArqBenchmark.DataPacket

namespace ArqBenchmark

open DataPacketHeader (packedSize)

namespace DataPacket

inductive TransmitSide : DataPacket → Prop
  | default {p : DataPacket} : DataPacket.default = .ok p → TransmitSide p
  | ofHeader {p : DataPacket} (hdr : DataPacketHeader) : ofHeader hdr = .ok p → TransmitSide p
  | updateHeader {p p' : DataPacket} (hdr : DataPacketHeader) : TransmitSide p →
      p.updateHeader hdr = .ok p' → TransmitSide p'
  | updateSequenceNumber {p p' : DataPacket} (seqNum : SequenceNumber) : TransmitSide p →
      p.updateSequenceNumber seqNum = .ok p' → TransmitSide p'
  | updateConversationID {p p' : DataPacket} (convID : ConversationID) : TransmitSide p →
      p.updateConversationID convID = .ok p' → TransmitSide p'
  | updateDataLength {p p' : DataPacket} (len : ℕ) : TransmitSide p →
      p.updateDataLength len = .ok p' → TransmitSide p'
  | writePayload {p p' : DataPacket} (i : ℕ) (b : Byte) : TransmitSide p →
      p.writePayload i b = .ok p' → TransmitSide p'

/-- Header struct and bytes say the same, and the payload has the length the header gives. -/
structure Framed (p : DataPacket) : Prop where
  packed : p.data = p.header.packed ++ p.getPayloadReadSpan
  payload_length : p.getPayloadReadSpan.length = p.header.length.toNat
  length_le : p.header.length.toNat ≤ dataPktMaxPayloadSize

theorem Framed.data_length {p : DataPacket} (h : p.Framed) :
    p.data.length = packedSize + p.header.length.toNat := by
  rw [h.packed, List.length_append, DataPacketHeader.packed_length, h.payload_length]

theorem Framed.data_length_le {p : DataPacket} (h : p.Framed) : p.data.length ≤ maxTransmissionUnit := by
  have hd := h.data_length
  have hl := h.length_le
  simp only [dataPktMaxPayloadSize, maxTransmissionUnit, packedSize] at *
  omega

def withHeader (p : DataPacket) (hdr : DataPacketHeader) : DataPacket :=
  { header := hdr, data := hdr.packed ++ p.getPayloadReadSpan }

@[simp] theorem withHeader_payload (p : DataPacket) (hdr : DataPacketHeader) :
    (p.withHeader hdr).getPayloadReadSpan = p.getPayloadReadSpan := rfl

theorem Framed.withHeader {p : DataPacket} (h : p.Framed) {hdr : DataPacketHeader}
    (hl : hdr.length = p.header.length) : (p.withHeader hdr).Framed where
  packed := rfl
  payload_length := by
    rw [withHeader_payload, h.payload_length]
    exact congrArg UInt16.toNat hl.symm
  length_le := by
    change hdr.length.toNat ≤ _
    rw [hl]
    exact h.length_le

theorem reserialise_eq {p : DataPacket} (h : packedSize ≤ p.data.length) :
    p.reserialise = .ok (p.withHeader p.header) := by
  have hspan : p.getHeaderSpan = .ok (p.data.take packedSize) := by
    simp only [getHeaderSpan, subspan, Nat.zero_add, h, ↓reduceIte, List.drop_zero]
  have hbytes : p.header.serialise (p.data.take packedSize) = (true, p.header.packed) := by
    rw [DataPacketHeader.serialise_eq _ (by rw [List.length_take]; omega)]
    simp only [List.drop_take, Nat.sub_self, List.take_zero, List.append_nil]
  simp only [reserialise, serialiseHeader, hspan, Loops.ok_bind, hbytes]
  simp only [overwrite, List.take_zero, List.nil_append, DataPacketHeader.packed_length, Nat.zero_add]
  rfl

theorem resize_length (data : List Byte) (size : ℕ) : (resize data size).length = size := by
  simp only [resize, List.length_append, List.length_take, List.length_replicate]
  omega

theorem reserialise_framed {p : DataPacket} (hd : p.data.length = packedSize + p.header.length.toNat)
    (hl : p.header.length.toNat ≤ dataPktMaxPayloadSize) : (p.withHeader p.header).Framed where
  packed := rfl
  payload_length := by
    rw [withHeader_payload, getPayloadReadSpan, List.length_drop, hd, Nat.add_sub_cancel_left]
    rfl
  length_le := hl

theorem clamp_le (len : ℕ) :
    (UInt16.ofNat (if dataPktMaxPayloadSize < len then dataPktMaxPayloadSize else len)).toNat ≤
      dataPktMaxPayloadSize := by
  have hmax : dataPktMaxPayloadSize = 1495 := rfl
  rw [UInt16.toNat_ofNat', hmax]
  split <;> omega

theorem updateDataLength_framed (p : DataPacket) (len : ℕ) :
    ∃ p', p.updateDataLength len = .ok p' ∧ p'.Framed :=
  ⟨_, reserialise_eq (by rw [resize_length]; omega),
    reserialise_framed (resize_length _ _) (clamp_le len)⟩

theorem updateSequenceNumber_eq {p : DataPacket} (h : p.Framed) (seqNum : SequenceNumber) :
    p.updateSequenceNumber seqNum =
      .ok (p.withHeader { p.header with sequenceNumber := seqNum }) :=
  reserialise_eq (p := { p with header.sequenceNumber := seqNum })
    (show packedSize ≤ p.data.length by rw [h.data_length]; omega)

theorem updateConversationID_eq {p : DataPacket} (h : p.Framed) (convID : ConversationID) :
    p.updateConversationID convID = .ok (p.withHeader { p.header with id := convID }) :=
  reserialise_eq (p := { p with header.id := convID })
    (show packedSize ≤ p.data.length by rw [h.data_length]; omega)

theorem Framed.writePayload {p p' : DataPacket} {i : ℕ} {b : Byte} (h : p.Framed)
    (hw : p.writePayload i b = .ok p') : p'.Framed := by
  obtain ⟨data, hd, hp⟩ := Loops.bind_eq_ok.mp hw
  obtain rfl : { p with data := data } = p' := Except.ok.inj hp
  unfold writeAt at hd
  split at hd
  · obtain rfl := Except.ok.inj hd
    have hset : p.data.set (packedSize + i) b = p.header.packed ++ p.getPayloadReadSpan.set i b := by
      rw [h.packed, List.set_append_right _ _ (by rw [DataPacketHeader.packed_length]; omega)]
      simp only [DataPacketHeader.packed_length, Nat.add_sub_cancel_left]
    refine ⟨?_, ?_, h.length_le⟩
    · simp only [getPayloadReadSpan, hset]
      rfl
    · have hl := h.payload_length
      simp only [getPayloadReadSpan, List.length_drop, List.length_set] at hl ⊢
      exact hl
  · cases hd

theorem TransmitSide.framed {p : DataPacket} (h : TransmitSide p) : p.Framed := by
  have resized {q q' : DataPacket} {len : ℕ} (hq : q.updateDataLength len = .ok q') : q'.Framed := by
    obtain ⟨r, hr, hf⟩ := updateDataLength_framed q len
    rw [hr] at hq
    exact Except.ok.inj hq ▸ hf
  induction h with
  | default hp => exact resized hp
  | ofHeader hdr hp => exact resized hp
  | updateHeader hdr _ hp => exact resized hp
  | updateSequenceNumber seqNum _ hp ih =>
    rw [updateSequenceNumber_eq ih] at hp
    exact Except.ok.inj hp ▸ ih.withHeader rfl
  | updateConversationID convID _ hp ih =>
    rw [updateConversationID_eq ih] at hp
    exact Except.ok.inj hp ▸ ih.withHeader rfl
  | updateDataLength len _ hp => exact resized hp
  | writePayload i b _ hp ih => exact ih.writePayload hp

/-- What the receiver reads off a datagram with bytes of an older one behind it: the header that
was sent, and its bytes first. -/
structure IsCopy (p q : DataPacket) : Prop where
  header_eq : p.header = q.header
  bytes : q.data <+: p.data

theorem ofSpan_copy {q : DataPacket} (h : q.Framed) (rest : List Byte) :
    ∃ p, ofSpan (q.data ++ rest) = .ok p ∧ p.IsCopy q := by
  have hsize : 0 + packedSize ≤ (q.data ++ rest).length := by
    rw [List.length_append, h.data_length]
    omega
  have hspan : ((q.data ++ rest).drop 0).take packedSize = q.header.packed ++ [] := by
    rw [h.packed, List.drop_zero, List.append_nil, List.append_assoc]
    rfl
  refine ⟨{ header := q.header, data := q.data ++ rest }, ?_, rfl, List.prefix_append _ _⟩
  simp only [ofSpan, deserialiseHeader, getHeaderSpan, subspan, hsize, ↓reduceIte, Loops.ok_bind, hspan,
    DataPacketHeader.deserialise_packed]
  rfl

def contents (p : DataPacket) : DataPacketHeader × List Byte :=
  (p.getHeader, p.getPayloadReadSpan.take p.header.length.toNat)

theorem IsCopy.contents_eq {p q : DataPacket} (h : p.IsCopy q) (hq : q.Framed) :
    p.contents = q.contents := by
  obtain ⟨rest, hrest⟩ := h.bytes
  have hpay : p.getPayloadReadSpan = q.getPayloadReadSpan ++ rest := by
    simp only [getPayloadReadSpan, ← hrest]
    rw [List.drop_append_of_le_length (by rw [hq.data_length]; omega)]
  simp only [contents, getHeader, h.header_eq, hpay, ← hq.payload_length, List.take_left,
    List.take_length]

end DataPacket

abbrev ReceiveBuffer := { bytes : List Byte // bytes.length = maxTransmissionUnit }

def emptyReceiveBuffer : ReceiveBuffer := ⟨List.replicate maxTransmissionUnit 0, List.length_replicate⟩

def receiveInto (datagram : List Byte) (recvBuffer : ReceiveBuffer) : ℕ × ReceiveBuffer :=
  let received := datagram.take maxTransmissionUnit
  (received.length, ⟨received ++ recvBuffer.val.drop received.length, by
    have h := recvBuffer.property
    simp only [List.length_append, List.length_drop, received, List.length_take, h]
    omega⟩)

theorem receiveInto_eq {datagram : List Byte} (h : datagram.length ≤ maxTransmissionUnit)
    (recvBuffer : ReceiveBuffer) :
    (receiveInto datagram recvBuffer).1 = datagram.length ∧
      (receiveInto datagram recvBuffer).2.val = datagram ++ recvBuffer.val.drop datagram.length := by
  simp only [receiveInto, List.take_of_length_le h, and_self]

end ArqBenchmark
