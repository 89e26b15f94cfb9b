import ArqBenchmark.ReliableChannel
import ArqBenchmark.LauncherOptions

namespace ArqBenchmark

namespace Launcher

section Packets

open DataPacket

def inputPacket (dist : ℕ → Byte) : Except Fault DataPacket := do
  let inputPacket ← DataPacket.default
  let inputPacket ← inputPacket.updateDataLength packetPayloadLength.toNat
  let inputPacket ← inputPacket.updateConversationID 1
  Loops.forRange (fun i inputPacket => inputPacket.writePayload i (dist i))
    inputPacket.getPayloadReadSpan.length inputPacket

structure Carries (dist : ℕ → Byte) (p : DataPacket) : Prop where
  transmitSide : p.TransmitSide
  header : p.header = ⟨1, 0, packetPayloadLength⟩
  payload : p.getPayloadReadSpan = (List.range packetPayloadLength.toNat).map dist

theorem map_range_set {payload : List Byte} {i : ℕ} (dist : ℕ → Byte) (hi : i < payload.length) :
    ((List.range i).map dist ++ payload.drop i).set i (dist i) =
      (List.range (i + 1)).map dist ++ payload.drop (i + 1) := by
  have hlength : ((List.range i).map dist).length = i := by rw [List.length_map, List.length_range]
  rw [List.drop_eq_getElem_cons hi, List.set_append_right _ _ (Nat.le_of_eq hlength), hlength, Nat.sub_self,
    List.set_cons_zero, List.range_succ, List.map_append, List.append_assoc]
  rfl

structure Written (dist : ℕ → Byte) (p : DataPacket) (i : ℕ) (q : DataPacket) : Prop where
  transmitSide : q.TransmitSide
  header : q.header = p.header
  payload : q.getPayloadReadSpan = (List.range i).map dist ++ p.getPayloadReadSpan.drop i

theorem Written.next {p q : DataPacket} {dist : ℕ → Byte} {i : ℕ} (h : Written dist p i q)
    (hi : i < p.getPayloadReadSpan.length) :
    ∃ q', q.writePayload i (dist i) = .ok q' ∧ Written dist p (i + 1) q' := by
  have hlength : i < q.getPayloadReadSpan.length := by
    rw [h.payload, List.length_append, List.length_map, List.length_range, List.length_drop]
    omega
  obtain ⟨q', hq', hheader, hpayload⟩ := h.transmitSide.framed.keeps.writePayload i (dist i) hlength
  refine ⟨q', hq', .writePayload i (dist i) h.transmitSide hq', hheader.trans h.header, ?_⟩
  rw [hpayload, h.payload, map_range_set dist hi]

theorem inputPacket_carries (dist : ℕ → Byte) : ∃ p, inputPacket dist = .ok p ∧ Carries dist p := by
  have hnew : DataPacket.default = .ok _ := updateDataLength_eq blank 0
  obtain ⟨p, hp, hheader, hpayload⟩ := updateDataLength_keeps _ packetPayloadLength.toNat
  have hside : p.TransmitSide := .updateDataLength _ (.default hnew) hp
  obtain ⟨q, hq, hqheader, hqpayload⟩ := hside.framed.keeps.updateConversationID 1
  obtain ⟨r, hr, hwritten⟩ := Loops.forRange_rule (I := Written dist q) (fun i hi r h => h.next hi)
    ⟨.updateConversationID 1 hside hq, rfl, rfl⟩
  refine ⟨r, ?_, hwritten.transmitSide, ?_, ?_⟩
  · rw [inputPacket, hnew, Loops.ok_bind, hp, Loops.ok_bind, hq, Loops.ok_bind]
    exact hr
  · rw [hwritten.header]
    change q.getHeader = _
    rw [hqheader, hheader]
    decide
  · rw [hwritten.payload, List.drop_length, List.append_nil, hqpayload, hpayload, resize_length, hheader]
    rfl

structure Filled (dist : ℕ → ℕ → Byte) (n : ℕ) (packets : List DataPacket) : Prop where
  length_eq : packets.length = n
  carries : ∀ i p, packets[i]? = some p → Carries (dist i) p

theorem Filled.next {dist : ℕ → ℕ → Byte} {n : ℕ} {packets : List DataPacket} (h : Filled dist n packets) :
    ∃ packets', (do pure (packets ++ [← inputPacket (dist n)]) : Except Fault (List DataPacket)) = .ok packets' ∧
      Filled dist (n + 1) packets' := by
  obtain ⟨p, hp, hcarries⟩ := inputPacket_carries (dist n)
  refine ⟨packets ++ [p], by rw [hp]; rfl, by simp [h.length_eq], fun i q hq => ?_⟩
  by_cases hi : i < packets.length
  · rw [List.getElem?_append_left hi] at hq
    exact h.carries i q hq
  · have hle := (List.getElem?_eq_some_iff.mp hq).1
    rw [List.length_append, List.length_singleton] at hle
    obtain rfl : i = n := by
      have := h.length_eq
      omega
    rw [← h.length_eq, List.getElem?_concat_length, Option.some.injEq] at hq
    exact hq ▸ hcarries

/-- The packets of the benchmark: `num` filled ones, and the end of the transmission. -/
structure Transmitted (dist : ℕ → ℕ → Byte) (num : ℕ) (packets : List DataPacket) : Prop where
  filled : Filled dist num packets.dropLast
  ends : ∃ p, packets.getLast? = some p ∧ p.TransmitSide ∧ p.header = ⟨1, 0, 0⟩

variable {dist : ℕ → ℕ → Byte} {num : ℕ} {packets : List DataPacket}

theorem Transmitted.getElem? (h : Transmitted dist num packets) {i : ℕ} {p : DataPacket} (hp : packets[i]? = some p) :
    i < num ∧ Carries (dist i) p ∨ i = num ∧ p.TransmitSide ∧ p.header = ⟨1, 0, 0⟩ := by
  obtain ⟨q, hlast, hside, hheader⟩ := h.ends
  have hsplit : packets.dropLast ++ [q] = packets := List.dropLast_append_getLast? q hlast
  have hlength := h.filled.length_eq
  rw [← hsplit] at hp
  by_cases hi : i < num
  · rw [List.getElem?_append_left (by omega)] at hp
    exact .inl ⟨hi, h.filled.carries i p hp⟩
  · have hle := (List.getElem?_eq_some_iff.mp hp).1
    rw [List.length_append, List.length_singleton] at hle
    obtain rfl : i = packets.dropLast.length := by omega
    rw [List.getElem?_concat_length, Option.some.injEq] at hp
    exact .inr ⟨hlength, hp ▸ ⟨hside, hheader⟩⟩

theorem Transmitted.length_eq (h : Transmitted dist num packets) : packets.length = num + 1 := by
  obtain ⟨q, hlast, -⟩ := h.ends
  rw [← List.dropLast_append_getLast? q hlast, List.length_append, h.filled.length_eq]
  rfl

theorem Transmitted.transmitSide (h : Transmitted dist num packets) :
    ∀ p ∈ packets, p.TransmitSide ∧ p.FillsPayload := by
  intro p hp
  obtain ⟨i, hi⟩ := List.getElem?_of_mem hp
  rcases h.getElem? hi with ⟨-, hcarries⟩ | ⟨-, hside, hheader⟩
  · exact ⟨hcarries.transmitSide, .inr (by rw [hcarries.header])⟩
  · exact ⟨hside, .inl (by rw [hheader])⟩

theorem Transmitted.endsTransmission (h : Transmitted dist num packets) : EndsTransmission packets := by
  intro i p hp
  rw [h.length_eq, Nat.add_right_cancel_iff]
  rcases h.getElem? hp with ⟨hlt, hcarries⟩ | ⟨rfl, hside, hheader⟩
  · refine iff_of_false ?_ (Nat.ne_of_lt hlt)
    rw [hcarries.payload, List.map_eq_nil_iff, List.range_eq_nil]
    decide
  · refine iff_of_true ?_ rfl
    rw [← hside.framed.isEndOfTx_iff, DataPacket.isEndOfTx, hheader]
    rfl

end Packets

section Launch

def defaultWindowSize : UInt16 := 100

def receiveWindowSize : UInt16 := 100

abbrev RtBuffer : ArqProtocol → Type
  | .dummySCTP => Rt.DummySCTP
  | .stopAndWait => Rt.StopAndWait
  | .goBackN => Rt.GoBackN
  | .selectiveRepeat => Rt.SelectiveRepeat

abbrev RsBuffer : ArqProtocol → Type
  | .dummySCTP => Rs.DummySCTP
  | .stopAndWait => Rs.StopAndWait
  | .goBackN => Rs.GoBackN
  | .selectiveRepeat => Rs.SelectiveRepeat

instance retransmissionBuffer : (p : ArqProtocol) → RetransmissionBuffer (RtBuffer p)
  | .dummySCTP => inferInstanceAs (RetransmissionBuffer Rt.DummySCTP)
  | .stopAndWait => inferInstanceAs (RetransmissionBuffer Rt.StopAndWait)
  | .goBackN => inferInstanceAs (RetransmissionBuffer Rt.GoBackN)
  | .selectiveRepeat => inferInstanceAs (RetransmissionBuffer Rt.SelectiveRepeat)

instance resequencingBuffer : (p : ArqProtocol) → ResequencingBuffer (RsBuffer p)
  | .dummySCTP => inferInstanceAs (ResequencingBuffer Rs.DummySCTP)
  | .stopAndWait => inferInstanceAs (ResequencingBuffer Rs.StopAndWait)
  | .goBackN => inferInstanceAs (ResequencingBuffer Rs.GoBackN)
  | .selectiveRepeat => inferInstanceAs (ResequencingBuffer Rs.SelectiveRepeat)

/-- The retransmission buffer of `startTransmitter`. The timeout is given in milliseconds and kept in microseconds. -/
def startTransmitter (windowSize : Option UInt16) (arqTimeout : UInt16) : (p : ArqProtocol) → RtBuffer p
  | .dummySCTP => Rt.DummySCTP.new
  | .stopAndWait => Rt.StopAndWait.new (1000 * arqTimeout.toNat)
  | .goBackN => Rt.GoBackN.new (windowSize.getD defaultWindowSize) (1000 * arqTimeout.toNat) firstSequenceNumber
  | .selectiveRepeat =>
    Rt.SelectiveRepeat.new (windowSize.getD defaultWindowSize) (1000 * arqTimeout.toNat) firstSequenceNumber

/-- The resequencing buffer of `startReceiver`, whose window is not the configured one. -/
def startReceiver : (p : ArqProtocol) → RsBuffer p
  | .dummySCTP => Rs.DummySCTP.new firstSequenceNumber
  | .stopAndWait => Rs.StopAndWait.new firstSequenceNumber
  | .goBackN => Rs.GoBackN.new firstSequenceNumber
  | .selectiveRepeat => Rs.SelectiveRepeat.new receiveWindowSize firstSequenceNumber

def launch (common : ConfigCommon) (server : ConfigServer) (packets : List DataPacket) :
    System (RtBuffer common.arqProtocol) (RsBuffer common.arqProtocol) :=
  .new packets (startTransmitter common.windowSize server.arqTimeout common.arqProtocol)
    (startReceiver common.arqProtocol)

end Launch

end Launcher

end ArqBenchmark
