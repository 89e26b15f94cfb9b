import ArqBenchmark.PacketFraming

namespace ArqBenchmark

open DataPacketHeader (packedSize)

namespace DataPacket

variable {p : DataPacket} {bytes : List Byte}

theorem ofBytes_take (bytes : List Byte) :
    DataPacketHeader.ofBytes (bytes.take packedSize) = DataPacketHeader.ofBytes bytes := by
  match bytes with
  | [] => rfl
  | [_] => rfl
  | [_, _] => rfl
  | [_, _, _] => rfl
  | [_, _, _, _] => rfl
  | _ :: _ :: _ :: _ :: _ :: _ => rfl

theorem ofSpan_eq (h : packedSize ≤ bytes.length) :
    ofSpan bytes = .ok { header := .ofBytes bytes, data := bytes } := by
  have hspan : getHeaderSpan { blank with data := bytes } = .ok (bytes.take packedSize) := by
    simp only [getHeaderSpan, subspan, Nat.zero_add, h, ↓reduceIte, List.drop_zero]
  have hheader : blank.header.deserialise (bytes.take packedSize) = (true, .ofBytes bytes) := by
    rw [DataPacketHeader.deserialise_eq _ (by rw [List.length_take]; omega), ofBytes_take]
  simp only [ofSpan, deserialiseHeader, hspan, hheader, Loops.ok_bind]
  rfl

theorem ofSpan_short (h : bytes.length < packedSize) : ofSpan bytes = .error .outOfBounds := by
  -- The span is formed before `deserialise` compares its size.
  have hspan : getHeaderSpan { blank with data := bytes } = .error .outOfBounds := by
    simp only [getHeaderSpan, subspan, Nat.zero_add, Nat.not_le.mpr h, ↓reduceIte]
  simp only [ofSpan, deserialiseHeader, hspan, Loops.error_bind]

theorem ofVector_eq (bytes : List Byte) : ofVector bytes = ofSpan bytes := rfl

/-- What the receive-side constructors are to do with any bytes: an exception for too few, a packet for the
others, and no access behind the last one. -/
structure Parses (construct : List Byte → Except Fault DataPacket) (bytes : List Byte) : Prop where
  rejects : bytes.length < packedSize → ∃ what, construct bytes = .error (.dataPacketException what)
  accepts : packedSize ≤ bytes.length →
    ∃ p, construct bytes = .ok p ∧ p.getReadSpan = bytes ∧ p.getHeader = .ofBytes bytes
  inBounds : construct bytes ≠ .error .outOfBounds

theorem ofSpan_parses_iff (bytes : List Byte) : Parses ofSpan bytes ↔ packedSize ≤ bytes.length := by
  constructor
  · intro h
    apply Nat.not_lt.mp
    intro hshort
    exact h.inBounds (ofSpan_short hshort)
  · intro h
    refine ⟨fun hshort => absurd hshort (Nat.not_lt.mpr h), fun _ => ⟨_, ofSpan_eq h, rfl, rfl⟩, ?_⟩
    rw [ofSpan_eq h]
    exact nofun

theorem constructors_parse_iff (bytes : List Byte) :
    (Parses ofSpan bytes ↔ packedSize ≤ bytes.length) ∧ (Parses ofVector bytes ↔ packedSize ≤ bytes.length) :=
  ⟨ofSpan_parses_iff bytes, ofSpan_parses_iff bytes⟩

theorem four_bytes_read_past_end : ¬ Parses ofSpan [1, 0, 0, 0] ∧ ¬ Parses ofVector [1, 0, 0, 0] :=
  ⟨fun h => h.inBounds rfl, fun h => h.inBounds rfl⟩

def cappedTo (hdr : DataPacketHeader) (len : ℕ) : DataPacketHeader :=
  { hdr with length := UInt16.ofNat (min len dataPktMaxPayloadSize) }

theorem cappedTo_length (hdr : DataPacketHeader) (len : ℕ) :
    (cappedTo hdr len).length.toNat = min len dataPktMaxPayloadSize := by
  have hmax : dataPktMaxPayloadSize = 1495 := rfl
  rw [cappedTo, UInt16.toNat_ofNat']
  omega

theorem resize_drop (data : List Byte) (k size : ℕ) :
    (resize data (k + size)).drop k = resize (data.drop k) size := by
  have hzeros : k + size - data.length - (k - min (k + size) data.length) = size - (data.length - k) := by omega
  rw [resize, resize, List.drop_append, List.drop_take, List.drop_replicate, List.length_take, List.length_drop,
    Nat.add_sub_cancel_left, hzeros]

theorem updateDataLength_eq (p : DataPacket) (len : ℕ) :
    p.updateDataLength len = .ok { header := cappedTo p.header len
                                   data := (cappedTo p.header len).packed ++
                                     resize p.getPayloadReadSpan (min len dataPktMaxPayloadSize) } := by
  have hclamp : (if dataPktMaxPayloadSize < len then dataPktMaxPayloadSize else len) =
      min len dataPktMaxPayloadSize := by
    split <;> omega
  have hlength := cappedTo_length p.header len
  rw [updateDataLength, hclamp, reserialise_eq (by rw [resize_length]; omega)]
  rw [cappedTo] at hlength
  simp only [withHeader, getPayloadReadSpan, hlength, resize_drop]
  rfl

/-- The two copies of the header agree, and the bytes are those of one whole packet. -/
structure Represents (p : DataPacket) : Prop where
  size : p.getReadSpan.length = packedSize + p.getHeader.length.toNat
  size_le : p.getReadSpan.length ≤ maxTransmissionUnit
  decodes : ∀ hdr : DataPacketHeader, hdr.deserialise (p.getReadSpan.take packedSize) = (true, p.getHeader)
  isEndOfTx_iff : p.isEndOfTx = true ↔ p.getPayloadReadSpan = []
  ofSpan_eq : ofSpan p.getReadSpan = .ok p
  ofVector_eq : ofVector p.getReadSpan = .ok p

/-- Every mutator returns; it changes the header fields that it names and keeps the payload up to the new
length, behind which it is zero. -/
structure Keeps (p : DataPacket) : Prop where
  updateHeader : ∀ hdr, ∃ p', p.updateHeader hdr = .ok p' ∧ p'.getHeader = cappedTo hdr hdr.length.toNat ∧
    p'.getPayloadReadSpan = resize p.getPayloadReadSpan p'.getHeader.length.toNat
  updateDataLength : ∀ len, ∃ p', p.updateDataLength len = .ok p' ∧ p'.getHeader = cappedTo p.getHeader len ∧
    p'.getPayloadReadSpan = resize p.getPayloadReadSpan p'.getHeader.length.toNat
  updateSequenceNumber : ∀ seqNum, ∃ p', p.updateSequenceNumber seqNum = .ok p' ∧
    p'.getHeader = { p.getHeader with sequenceNumber := seqNum } ∧ p'.getPayloadReadSpan = p.getPayloadReadSpan
  updateConversationID : ∀ convID, ∃ p', p.updateConversationID convID = .ok p' ∧
    p'.getHeader = { p.getHeader with id := convID } ∧ p'.getPayloadReadSpan = p.getPayloadReadSpan
  writePayload : ∀ i b, i < p.getPayloadReadSpan.length → ∃ p', p.writePayload i b = .ok p' ∧
    p'.getHeader = p.getHeader ∧ p'.getPayloadReadSpan = p.getPayloadReadSpan.set i b

theorem updateDataLength_keeps (p : DataPacket) (len : ℕ) :
    ∃ p', p.updateDataLength len = .ok p' ∧ p'.getHeader = cappedTo p.getHeader len ∧
      p'.getPayloadReadSpan = resize p.getPayloadReadSpan p'.getHeader.length.toNat := by
  refine ⟨_, updateDataLength_eq p len, rfl, ?_⟩
  simp only [getHeader, cappedTo_length]
  rfl

theorem Framed.ofSpan_eq (h : p.Framed) : ofSpan p.getReadSpan = .ok p := by
  have hsize : packedSize ≤ p.data.length := by
    rw [h.data_length]
    omega
  have hheader : DataPacketHeader.ofBytes p.data = p.header := by
    rw [h.packed, DataPacketHeader.ofBytes_packed]
  rw [getReadSpan, DataPacket.ofSpan_eq hsize, hheader]

theorem Framed.represents (h : p.Framed) : p.Represents where
  size := h.data_length
  size_le := h.data_length_le
  decodes hdr := by
    have hfirst : p.getReadSpan.take packedSize = p.header.packed ++ [] := by
      rw [getReadSpan, h.packed, List.append_nil]
      rfl
    rw [hfirst, DataPacketHeader.deserialise_packed]
    rfl
  isEndOfTx_iff := by
    rw [← List.length_eq_zero_iff, h.payload_length, isEndOfTx, beq_iff_eq, ← UInt16.toNat_inj]
    rfl
  ofSpan_eq := h.ofSpan_eq
  ofVector_eq := h.ofSpan_eq

theorem Framed.keeps (h : p.Framed) : p.Keeps where
  updateHeader hdr := updateDataLength_keeps { p with header := hdr } hdr.length.toNat
  updateDataLength := updateDataLength_keeps p
  updateSequenceNumber seqNum := ⟨_, updateSequenceNumber_eq h seqNum, rfl, rfl⟩
  updateConversationID convID := ⟨_, updateConversationID_eq h convID, rfl, rfl⟩
  writePayload i b hi := by
    have hwrite : writeAt p.data (packedSize + i) b = .ok (p.data.set (packedSize + i) b) := by
      apply writeAt_eq
      rw [getPayloadReadSpan, List.length_drop] at hi
      omega
    refine ⟨{ p with data := p.data.set (packedSize + i) b }, ?_, rfl, ?_⟩
    · rw [DataPacket.writePayload, hwrite]
      rfl
    · rw [getPayloadReadSpan, List.drop_set, if_neg (by omega), Nat.add_sub_cancel_left]
      rfl

/-- Every transmit-side packet is one whole packet, is kept so by the mutators, and is read back from its
bytes. -/
theorem transmit_side_represents :
    (∃ p, DataPacket.default = .ok p ∧ p.getHeader = ⟨0, 0, 0⟩ ∧ p.getPayloadReadSpan = []) ∧
    (∀ hdr, ∃ p, ofHeader hdr = .ok p ∧ p.getHeader = cappedTo hdr hdr.length.toNat ∧
      p.getPayloadReadSpan = List.replicate p.getHeader.length.toNat 0) ∧
    ∀ p, TransmitSide p → p.Represents ∧ p.Keeps := by
  refine ⟨⟨_, updateDataLength_eq blank 0, rfl, rfl⟩, fun hdr => ?_, fun p hp => ?_⟩
  · obtain ⟨p, hp, hheader, hpayload⟩ := updateDataLength_keeps { blank with header := hdr } hdr.length.toNat
    refine ⟨p, hp, hheader, hpayload.trans ?_⟩
    simp only [resize, getPayloadReadSpan, blank, List.drop_nil, List.take_nil, List.length_nil, Nat.sub_zero,
      List.nil_append]
  · exact ⟨hp.framed.represents, hp.framed.keeps⟩

theorem transmit_side_represents_run :
    ∃ p, TransmitSide p ∧ p.getPayloadReadSpan = [7] ∧ p.Represents ∧ p.Keeps := by
  have hbuilt : TransmitSide ⟨⟨1, 7, 1⟩, [1, 0, 7, 0, 1, 0]⟩ := .ofHeader ⟨1, 7, 1⟩ (by decide)
  have hwritten : TransmitSide ⟨⟨1, 7, 1⟩, [1, 0, 7, 0, 1, 7]⟩ := .writePayload 0 7 hbuilt (by decide)
  exact ⟨_, hwritten, rfl, transmit_side_represents.2.2 _ hwritten⟩

end DataPacket

end ArqBenchmark
