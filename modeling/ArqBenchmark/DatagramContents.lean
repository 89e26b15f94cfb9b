import ArqBenchmark.PacketConstruction
import ArqBenchmark.Receiver
import ArqBenchmark.Transmitter

namespace ArqBenchmark

open DataPacketHeader (packedSize)

theorem receiveInto_length (datagram : List Byte) (recvBuffer : ReceiveBuffer) :
    (receiveInto datagram recvBuffer).2.val.length = maxTransmissionUnit :=
  (receiveInto datagram recvBuffer).2.property

namespace Receiver

variable {R : Type} {r : Receiver R} {datagram : List Byte} {recvBuffer : ReceiveBuffer}

theorem receivePacket_eq (hr : r.resequencingThread = .receiving) (hpos : 1 ≤ datagram.length)
    (hmax : datagram.length ≤ maxTransmissionUnit) (recvBuffer : ReceiveBuffer) :
    r.receivePacket (some (receiveInto datagram recvBuffer)) = some { r with
      resequencingThread := .received
        { header := .ofBytes (datagram ++ recvBuffer.val.drop datagram.length)
          data := datagram ++ recvBuffer.val.drop datagram.length } } := by
  obtain ⟨hlen, hbytes⟩ := receiveInto_eq hmax recvBuffer
  have hsize : packedSize ≤ (receiveInto datagram recvBuffer).2.val.length := by
    rw [receiveInto_length]
    decide
  have hne : ¬ (receiveInto datagram recvBuffer).1 = 0 := by
    rw [hlen]
    omega
  rw [hbytes] at hsize
  simp only [receivePacket, hr, hne, ↓reduceIte, hbytes, DataPacket.ofSpan_eq hsize]

/-- The datagram becomes a packet of just its bytes, or no packet if it is too short for a header. -/
def YieldsDatagram (r : Receiver R) (datagram : List Byte) (recvBuffer : ReceiveBuffer) : Prop :=
  (packedSize ≤ datagram.length → ∃ p, r.receivePacket (some (receiveInto datagram recvBuffer)) =
    some { r with resequencingThread := .received p } ∧ p.getReadSpan = datagram) ∧
  (datagram.length < packedSize → r.receivePacket (some (receiveInto datagram recvBuffer)) =
    some { r with resequencingThread := .delivering })

def YieldsPacket (r : Receiver R) (p : DataPacket) (recvBuffer : ReceiveBuffer) : Prop :=
  r.receivePacket (some (receiveInto p.getReadSpan recvBuffer)) =
    some { r with resequencingThread := .received p }

theorem received_inj {r : Receiver R} {p q : DataPacket}
    (h : some { r with resequencingThread := .received p } = some { r with resequencingThread := .received q }) :
    p = q := by
  simpa using congrArg (Option.map Receiver.resequencingThread) h

theorem yieldsDatagram_iff (hr : r.resequencingThread = .receiving) (hpos : 1 ≤ datagram.length)
    (hmax : datagram.length ≤ maxTransmissionUnit) (recvBuffer : ReceiveBuffer) :
    r.YieldsDatagram datagram recvBuffer ↔ datagram.length = maxTransmissionUnit := by
  have hp := receivePacket_eq hr hpos hmax recvBuffer
  have hrest := recvBuffer.property
  constructor
  · rintro ⟨hlong, hshort⟩
    by_cases hsize : packedSize ≤ datagram.length
    · obtain ⟨q, hq, hexact⟩ := hlong hsize
      obtain rfl := received_inj (hp.symm.trans hq)
      -- The packet has the length of the receive buffer, whatever was received.
      have hlength : (datagram ++ recvBuffer.val.drop datagram.length).length = datagram.length :=
        congrArg List.length hexact
      rw [List.length_append, List.length_drop] at hlength
      omega
    · have hnone := hp.symm.trans (hshort (Nat.not_le.mp hsize))
      simp at hnone
  · intro hfull
    refine ⟨fun _ => ⟨_, hp, ?_⟩, fun hshort => ?_⟩
    · rw [List.drop_of_length_le (by rw [hrest, hfull]), List.append_nil]
      rfl
    · rw [hfull] at hshort
      exact absurd hshort (by decide)

theorem yieldsPacket_iff (hr : r.resequencingThread = .receiving) {p : DataPacket} (hp : p.Framed)
    (recvBuffer : ReceiveBuffer) :
    r.YieldsPacket p recvBuffer ↔ p.getHeader.length.toNat = dataPktMaxPayloadSize := by
  have hlength : p.getReadSpan.length = packedSize + p.getHeader.length.toNat := hp.data_length
  have hmtu : maxTransmissionUnit = packedSize + dataPktMaxPayloadSize := rfl
  have hle : p.getHeader.length.toNat ≤ dataPktMaxPayloadSize := hp.length_le
  have hrest := recvBuffer.property
  have hpos : 1 ≤ p.getReadSpan.length := by
    rw [hlength]
    exact Nat.le_add_right_of_le (by decide)
  rw [YieldsPacket, receivePacket_eq hr hpos hp.data_length_le]
  constructor
  · intro hsame
    have hsize : (p.getReadSpan ++ recvBuffer.val.drop p.getReadSpan.length).length = p.getReadSpan.length :=
      congrArg (fun q => q.data.length) (received_inj hsame)
    rw [List.length_append, List.length_drop] at hsize
    omega
  · intro hfull
    have hheader : DataPacketHeader.ofBytes p.getReadSpan = p.header := by
      rw [DataPacket.getReadSpan, hp.packed, DataPacketHeader.ofBytes_packed]
    rw [List.drop_of_length_le (by omega), List.append_nil, hheader]
    rfl

end Receiver

theorem received_as_sent_iff {R : Type} (r : Receiver R) (hr : r.resequencingThread = .receiving)
    (recvBuffer : ReceiveBuffer) :
    (∀ datagram, 1 ≤ datagram.length → datagram.length ≤ maxTransmissionUnit →
      (r.YieldsDatagram datagram recvBuffer ↔ datagram.length = maxTransmissionUnit)) ∧
    (∀ p, DataPacket.TransmitSide p →
      (r.YieldsPacket p recvBuffer ↔ p.getHeader.length.toNat = dataPktMaxPayloadSize)) :=
  ⟨fun _ hpos hmax => Receiver.yieldsDatagram_iff hr hpos hmax recvBuffer,
    fun _ hp => Receiver.yieldsPacket_iff hr hp.framed recvBuffer⟩

def listening : Receiver Rs.StopAndWait :=
  { Receiver.new (Rs.StopAndWait.new 0) with resequencingThread := .receiving }

theorem received_as_sent_iff_run :
    listening.YieldsDatagram (List.replicate maxTransmissionUnit 7) emptyReceiveBuffer :=
  ((received_as_sent_iff listening rfl emptyReceiveBuffer).1 _ (by rw [List.length_replicate]; decide)
    (by rw [List.length_replicate])).mpr List.length_replicate

theorem emptyPacket_transmitSide : DataPacket.TransmitSide ⟨⟨0, 0, 0⟩, [0, 0, 0, 0, 0]⟩ := .default (by decide)

theorem short_packet_padded :
    DataPacket.TransmitSide ⟨⟨0, 0, 0⟩, [0, 0, 0, 0, 0]⟩ ∧
      ¬ listening.YieldsPacket ⟨⟨0, 0, 0⟩, [0, 0, 0, 0, 0]⟩ emptyReceiveBuffer ∧
      ¬ listening.YieldsDatagram [0, 0, 0, 0, 0] emptyReceiveBuffer := by
  refine ⟨emptyPacket_transmitSide, fun h => ?_, fun h => ?_⟩
  · exact absurd ((Receiver.yieldsPacket_iff rfl emptyPacket_transmitSide.framed emptyReceiveBuffer).mp h)
      (by decide)
  · exact absurd ((Receiver.yieldsDatagram_iff rfl (by decide) (by decide) emptyReceiveBuffer).mp h) (by decide)

namespace Transmitter

variable {B : Type}

/-- The rest of a turn of the loop of the ACK thread, once `rxFn_` has returned. -/
def ackTurn (t : Transmitter B) (received : Option (ℕ × ReceiveBuffer)) : Option (Transmitter B) :=
  (t.receiveAck received).bind fun t =>
    match t.ackThread with
    | .pushing _ => t.ackThreadStep
    | _ => some t

variable {t : Transmitter B} {datagram : List Byte}

theorem ackTurn_eq (ht : t.ackThread = .receiving) (hpos : 1 ≤ datagram.length)
    (hmax : datagram.length ≤ maxTransmissionUnit) (recvBuffer : ReceiveBuffer) :
    t.ackTurn (some (receiveInto datagram recvBuffer)) = some { t with
      ackQueue := t.ackQueue ++ [ntohs (datagram ++ recvBuffer.val.drop datagram.length)]
      ackThread := .loop } := by
  obtain ⟨hlen, hbytes⟩ := receiveInto_eq hmax recvBuffer
  have hsize : 2 ≤ (receiveInto datagram recvBuffer).2.val.length := by
    rw [receiveInto_length]
    decide
  have hgot : 0 < (receiveInto datagram recvBuffer).1 := by
    rw [hlen]
    exact hpos
  rw [hbytes] at hsize
  simp only [ackTurn, receiveAck, ht, hgot, ↓reduceIte, hbytes, deserialiseSeqNum_eq hsize, Option.bind_some]
  rfl

/-- A datagram of at least two bytes puts the number that they encode into the ACK queue, a shorter one puts
nothing there, and what else the receive buffer holds is of no account. -/
structure ReadsAck (t : Transmitter B) (datagram : List Byte) : Prop where
  pushes : 2 ≤ datagram.length → ∃ a, Receiver.sendAck a = some (datagram.take 2) ∧
    ∀ recvBuffer, t.ackTurn (some (receiveInto datagram recvBuffer)) =
      some { t with ackQueue := t.ackQueue ++ [a], ackThread := .loop }
  ignores : datagram.length < 2 → ∀ recvBuffer, t.ackTurn (some (receiveInto datagram recvBuffer)) =
    some { t with ackThread := .loop }
  independent : ∀ recvBuffer recvBuffer', t.ackTurn (some (receiveInto datagram recvBuffer)) =
    t.ackTurn (some (receiveInto datagram recvBuffer'))

theorem readsAck_iff (ht : t.ackThread = .receiving) (hpos : 1 ≤ datagram.length)
    (hmax : datagram.length ≤ maxTransmissionUnit) : t.ReadsAck datagram ↔ 2 ≤ datagram.length := by
  constructor
  · intro h
    by_contra hshort
    have hturn := h.ignores (Nat.not_le.mp hshort) emptyReceiveBuffer
    rw [ackTurn_eq ht hpos hmax] at hturn
    simp at hturn
  · intro h
    match datagram, h with
    | hi :: lo :: rest, hlong =>
      have hread (recvBuffer : ReceiveBuffer) : t.ackTurn (some (receiveInto (hi :: lo :: rest) recvBuffer)) =
          some { t with ackQueue := t.ackQueue ++ [ntohs (hi :: lo :: rest)], ackThread := .loop } :=
        ackTurn_eq ht hpos hmax recvBuffer
      constructor
      · intro _
        refine ⟨ntohs (hi :: lo :: rest), ?_, hread⟩
        rw [Receiver.sendAck_eq, htons_ntohs]
        rfl
      · intro hshort
        exact absurd hlong (Nat.not_le.mpr hshort)
      · intro recvBuffer recvBuffer'
        rw [hread, hread]

end Transmitter

theorem complete_ack_read_iff {B : Type} (t : Transmitter B) (ht : t.ackThread = .receiving)
    (datagram : List Byte) (hpos : 1 ≤ datagram.length) (hmax : datagram.length ≤ maxTransmissionUnit) :
    t.ReadsAck datagram ↔ 2 ≤ datagram.length :=
  Transmitter.readsAck_iff ht hpos hmax

def awaitingAck : Transmitter Rt.StopAndWait :=
  { Transmitter.new (Rt.StopAndWait.new 100) with ackThread := .receiving }

theorem complete_ack_read_iff_run : awaitingAck.ReadsAck [1, 2, 3] :=
  (complete_ack_read_iff awaitingAck rfl [1, 2, 3] (by decide) (by decide)).mpr (by decide)

theorem one_byte_acknowledges : ¬ awaitingAck.ReadsAck [1] := fun h =>
  absurd ((Transmitter.readsAck_iff rfl (by decide) (by decide)).mp h) (by decide)

end ArqBenchmark
