import ArqBenchmark.PacketFraming

namespace ArqBenchmark

open DataPacket

def numbered (i : ℕ) (p : DataPacket) : DataPacket :=
  p.withHeader { p.header with sequenceNumber := UInt16.ofNat i }

def outgoing (packets : List DataPacket) : List DataPacket := packets.mapIdx numbered

theorem outgoing_concat (packets : List DataPacket) (p : DataPacket) :
    outgoing (packets ++ [p]) = outgoing packets ++ [numbered packets.length p] := by
  simp [outgoing, List.mapIdx_append]

theorem outgoing_prefix_append (packets more : List DataPacket) :
    outgoing packets <+: outgoing (packets ++ more) := by
  rw [outgoing, outgoing, List.mapIdx_append]
  exact List.prefix_append _ _

theorem outgoing_length (packets : List DataPacket) : (outgoing packets).length = packets.length :=
  List.length_mapIdx

theorem outgoing_getElem? {packets : List DataPacket} {i : ℕ} {p : DataPacket}
    (h : (outgoing packets)[i]? = some p) : ∃ p₀, packets[i]? = some p₀ ∧ p = numbered i p₀ := by
  rw [outgoing, List.getElem?_mapIdx] at h
  obtain ⟨p₀, hp₀, hp⟩ := Option.map_eq_some_iff.mp h
  exact ⟨p₀, hp₀, hp.symm⟩

@[simp] theorem numbered_sequenceNumber (i : ℕ) (p : DataPacket) :
    (numbered i p).header.sequenceNumber = UInt16.ofNat i := rfl

@[simp] theorem numbered_isEndOfTx (i : ℕ) (p : DataPacket) : (numbered i p).isEndOfTx = p.isEndOfTx := rfl

/-- The receiver has read the packet off a datagram that was sent. -/
def Received (sent : List DataPacket) (p : DataPacket) : Prop := ∃ q ∈ sent, p.IsCopy q

def EndNumber (sent : List DataPacket) (sn : SequenceNumber) : Prop :=
  ∃ i p, sent[i]? = some p ∧ p.isEndOfTx = true ∧ sn = UInt16.ofNat i

theorem Received.mono {sent more : List DataPacket} {p : DataPacket} (h : Received sent p) :
    Received (sent ++ more) p := by
  obtain ⟨q, hq, hp⟩ := h
  exact ⟨q, List.mem_append_left _ hq, hp⟩

theorem EndNumber.mono {sent more : List DataPacket} {sn : SequenceNumber} (h : EndNumber sent sn) :
    EndNumber (sent ++ more) sn := by
  obtain ⟨i, p, hp, hend, hsn⟩ := h
  have hi : i < sent.length := (List.getElem?_eq_some_iff.mp hp).1
  exact ⟨i, p, by rw [List.getElem?_append_left hi, hp], hend, hsn⟩

end ArqBenchmark
