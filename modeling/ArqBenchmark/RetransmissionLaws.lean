import ArqBenchmark.QueueRefinement

namespace ArqBenchmark

def TransmitBufferObject.held (o : TransmitBufferObject) : DataPacket × SequenceNumber :=
  (o.packet, o.info.sequenceNumber)

/-- What the transmitter relies on. `Holds` is kept whatever is acknowledged; `Aligned` says besides that
the packets have the sequence numbers from its second argument on, and is kept by ACKs for them. -/
class LawfulRetransmission (B : Type) [RetransmissionBuffer B] where
  capacity : B → ℕ
  Holds : B → List TransmitBufferObject → Prop
  Aligned : B → ℕ → List TransmitBufferObject → Prop
  addPacket : ∀ {b q}, Holds b q → RetransmissionBuffer.readyForNewPacket b = true → ∀ o,
    ∃ b', RetransmissionBuffer.addPacket b o = .ok b' ∧ Holds b' (q ++ [o])
  tryGetPacketSpan : ∀ {b q}, Holds b q → ∀ now,
    ∃ span b' q', RetransmissionBuffer.tryGetPacketSpan b now = .ok (span, b') ∧ Holds b' q' ∧
      q'.map TransmitBufferObject.held = q.map TransmitBufferObject.held ∧
        ∀ bytes ∈ span, ∃ o ∈ q, bytes = o.packet.getReadSpan
  acknowledgePacket : ∀ {b q}, Holds b q → ∀ a,
    ∃ b' k, RetransmissionBuffer.acknowledgePacket b a = .ok b' ∧ Holds b' (q.drop k)
  aligned_length : ∀ {b base q}, Aligned b base q → q.length ≤ capacity b
  aligned_sequence : ∀ {b base q}, Aligned b base q → ∀ i o, q[i]? = some o →
    o.info.sequenceNumber = UInt16.ofNat (base + i)
  aligned_addPacket : ∀ {b base q o}, Aligned b base q → RetransmissionBuffer.readyForNewPacket b = true →
    o.info.sequenceNumber = UInt16.ofNat (base + q.length) → base + q.length < 65536 →
    ∃ b', RetransmissionBuffer.addPacket b o = .ok b' ∧ Aligned b' base (q ++ [o]) ∧ capacity b' = capacity b
  aligned_tryGetPacketSpan : ∀ {b base q}, Aligned b base q → ∀ now,
    ∃ span b' q', RetransmissionBuffer.tryGetPacketSpan b now = .ok (span, b') ∧ Aligned b' base q' ∧
      q'.map TransmitBufferObject.held = q.map TransmitBufferObject.held ∧ capacity b' = capacity b
  aligned_acknowledgePacket : ∀ {b base q a}, Aligned b base q → a.toNat < base + q.length →
    ∃ b' k, RetransmissionBuffer.acknowledgePacket b a = .ok b' ∧ Aligned b' (base + k) (q.drop k) ∧
      k ≤ q.length ∧ base + k ≤ max base (a.toNat + 1) ∧ capacity b' = capacity b

namespace Rt

open OverCircularBuffer CircularBuffer

theorem held_set {q : List TransmitBufferObject} {k : ℕ} {o : TransmitBufferObject} {t : Time}
    (hk : q[k]? = some o) :
    (q.set k (o.updateLastTxTime t)).map TransmitBufferObject.held = q.map TransmitBufferObject.held := by
  obtain ⟨hlt, rfl⟩ := List.getElem?_eq_some_iff.mp hk
  apply List.ext_getElem
  · rw [List.length_map, List.length_map, List.length_set]
  · intro i hi _
    rw [List.getElem_map, List.getElem_map, List.getElem_set]
    split
    next heq =>
      subst heq
      rfl
    next => rfl

theorem held_firstTimedOut (timeoutInterval : ℤ) (now : Clock) (q : List TransmitBufferObject) :
    (((firstTimedOut timeoutInterval now q).map Prod.snd).getD q).map TransmitBufferObject.held =
      q.map TransmitBufferObject.held ∧
    ∀ bytes ∈ (firstTimedOut timeoutInterval now q).map (fun r => r.1.packet.getReadSpan),
      ∃ o ∈ q, bytes = o.packet.getReadSpan := by
  cases hf : firstTimedOut timeoutInterval now q with
  | none => exact ⟨rfl, fun bytes hb => by cases hb⟩
  | some r =>
    obtain ⟨k, t, hk, hset⟩ := firstTimedOut_eq_set hf
    refine ⟨?_, fun bytes hb => ⟨r.1, List.mem_of_getElem? hk, ?_⟩⟩
    · rw [Option.map_some, Option.getD_some, hset, held_set hk]
    · exact (Option.some.inj hb).symm

section Windows

variable {B : Type} [RetransmissionBuffer B] [OverCircularBuffer B] {b : B} {q : List TransmitBufferObject}
  {base : ℕ}

def HoldsOrEmpty (b : CircularBuffer) (q : List TransmitBufferObject) : Prop :=
  b.Holds q ∨ b.windowSize.toNat = 0 ∧ b.packetsInBuffer = 0 ∧ q = []

theorem packetsPending_of_zero {b : CircularBuffer}
    (hzero : b.packetsInBuffer = 0) : b.packetsPending = false := by
  rw [CircularBuffer.packetsPending, hzero]
  rfl

theorem HoldsOrEmpty.addPacket (h : HoldsOrEmpty (window b) q)
    (hready : RetransmissionBuffer.readyForNewPacket b = true) (o : TransmitBufferObject) :
    ∃ b' : B, RetransmissionBuffer.addPacket b o = .ok b' ∧ HoldsOrEmpty (window b') (q ++ [o]) := by
  rcases h with h | ⟨hsize, hzero, rfl⟩
  · rw [readyForNewPacket_window] at hready
    obtain ⟨w, hadd, hw, -⟩ := addPacket_holds h hready (full B) o
    exact ⟨ofWindow w, by rw [addPacket_window, hadd, Loops.map_ok], .inl (by rwa [window_ofWindow])⟩
  · rw [readyForNewPacket_window, CircularBuffer.readyForNewPacket, hsize, hzero] at hready
    cases hready

theorem HoldsOrEmpty.tryGetPacketSpan (h : HoldsOrEmpty (window b) q) (now : Clock) :
    ∃ span, ∃ b' : B, ∃ q', RetransmissionBuffer.tryGetPacketSpan b now = .ok (span, b') ∧
      HoldsOrEmpty (window b') q' ∧ q'.map TransmitBufferObject.held = q.map TransmitBufferObject.held ∧
      ∀ bytes ∈ span, ∃ o ∈ q, bytes = o.packet.getReadSpan := by
  rcases h with h | ⟨hsize, hzero, rfl⟩
  · obtain ⟨buffer, htry, hw⟩ := CircularBuffer.tryGetPacketSpan_eq h now
    obtain ⟨hheld, hbytes⟩ := held_firstTimedOut (window b).timeoutInterval now q
    exact ⟨_, ofWindow _, _, by rw [tryGetPacketSpan_window, htry]; rfl, .inl (by rwa [window_ofWindow]), hheld,
      hbytes⟩
  · refine ⟨none, b, [], ?_, .inr ⟨hsize, hzero, rfl⟩, rfl, fun _ hb => by cases hb⟩
    rw [tryGetPacketSpan_window, CircularBuffer.tryGetPacketSpan, packetsPending_of_zero hzero]
    change Except.ok (none, ofWindow (window b)) = _
    rw [ofWindow_window]

theorem HoldsOrEmpty.acknowledgePacket (h : HoldsOrEmpty (window b) q) (a : SequenceNumber) :
    ∃ b' : B, ∃ k, RetransmissionBuffer.acknowledgePacket b a = .ok b' ∧
      HoldsOrEmpty (window b') (q.drop k) := by
  rcases h with h | ⟨hsize, hzero, rfl⟩
  · obtain ⟨w, k, hack, hw, -⟩ := acknowledgePacket_holds h a
    exact ⟨ofWindow w, k, by rw [acknowledgePacket_window, hack, Loops.map_ok], .inl (by rwa [window_ofWindow])⟩
  · exact ⟨b, 0, by rw [acknowledgePacket_window, acknowledgePacket_idle (packetsPending_of_zero hzero),
      Loops.map_ok, ofWindow_window], .inr ⟨hsize, hzero, rfl⟩⟩

theorem aligned_addPacket {o : TransmitBufferObject} (h : (window b).Aligned base q)
    (hready : RetransmissionBuffer.readyForNewPacket b = true)
    (ho : o.info.sequenceNumber = UInt16.ofNat (base + q.length)) (hb : base + q.length < 65536) :
    ∃ b' : B, RetransmissionBuffer.addPacket b o = .ok b' ∧ (window b').Aligned base (q ++ [o]) ∧
      (window b').windowSize.toNat = (window b).windowSize.toNat := by
  rw [readyForNewPacket_window, h.ready_iff] at hready
  obtain ⟨w, hadd, hw, hsize, -⟩ := h.addPacket hready ho hb (full B)
  exact ⟨ofWindow w, by rw [addPacket_window, hadd, Loops.map_ok], by rwa [window_ofWindow],
    by rw [window_ofWindow, hsize]⟩

theorem aligned_tryGetPacketSpan (h : (window b).Aligned base q) (now : Clock) :
    ∃ span, ∃ b' : B, ∃ q', RetransmissionBuffer.tryGetPacketSpan b now = .ok (span, b') ∧
      (window b').Aligned base q' ∧ q'.map TransmitBufferObject.held = q.map TransmitBufferObject.held ∧
      (window b').windowSize.toNat = (window b).windowSize.toNat := by
  obtain ⟨w, htry, hw, hsize, -⟩ := h.tryGetPacketSpan now
  exact ⟨_, ofWindow w, _, by rw [tryGetPacketSpan_window, htry]; rfl, by rwa [window_ofWindow],
    (held_firstTimedOut _ now q).1, by rw [window_ofWindow, hsize]⟩

theorem aligned_acknowledgePacket {a : SequenceNumber} (h : (window b).Aligned base q)
    (ha : a.toNat < base + q.length) :
    ∃ b' : B, ∃ k, RetransmissionBuffer.acknowledgePacket b a = .ok b' ∧
      (window b').Aligned (base + k) (q.drop k) ∧ k ≤ q.length ∧ base + k ≤ max base (a.toNat + 1) ∧
      (window b').windowSize.toNat = (window b).windowSize.toNat := by
  obtain ⟨w, k, hack, hw, hk, hkeq, hsize, -⟩ := h.acknowledgePacket (fun _ => ha)
  refine ⟨ofWindow w, k, by rw [acknowledgePacket_window, hack, Loops.map_ok], by rwa [window_ofWindow], hk, ?_,
    by rw [window_ofWindow, hsize]⟩
  by_cases hq : q = []
  · subst hq
    rw [List.length_nil] at hk
    omega
  · have := hkeq hq
    omega

instance : LawfulRetransmission B where
  capacity b := (window b).windowSize.toNat
  Holds b q := HoldsOrEmpty (window b) q
  Aligned b base q := (window b).Aligned base q
  addPacket h hready o := h.addPacket hready o
  tryGetPacketSpan h now := h.tryGetPacketSpan now
  acknowledgePacket h a := h.acknowledgePacket a
  aligned_length h := h.holds.length_le
  aligned_sequence h := h.sequence
  aligned_addPacket h hready ho hb := aligned_addPacket h hready ho hb
  aligned_tryGetPacketSpan h now := aligned_tryGetPacketSpan h now
  aligned_acknowledgePacket h ha := aligned_acknowledgePacket h ha

end Windows

namespace StopAndWait

def Keeps (b : StopAndWait) (q : List TransmitBufferObject) : Prop := b.retransmitPacket.toList = q

variable {b : StopAndWait} {q : List TransmitBufferObject}

theorem Keeps.addPacket (h : b.Keeps q) (hready : b.readyForNewPacket = true) (o : TransmitBufferObject) :
    q = [] ∧ ∃ b', b.addPacket o = .ok b' ∧ b'.Keeps [o] := by
  obtain ⟨timeout, _ | p⟩ := b
  · exact ⟨h.symm, _, rfl, rfl⟩
  · cases hready

theorem Keeps.tryGetPacketSpan (h : b.Keeps q) (now : Clock) :
    ∃ q', (b.tryGetPacketSpan now).2.Keeps q' ∧
      q'.map TransmitBufferObject.held = q.map TransmitBufferObject.held ∧
      ∀ bytes ∈ (b.tryGetPacketSpan now).1, ∃ o ∈ q, bytes = o.packet.getReadSpan := by
  obtain ⟨timeout, _ | p⟩ := b
  · exact ⟨q, h, rfl, fun _ hb => by cases hb⟩
  · obtain rfl : [p] = q := h
    by_cases hdue : isPacketTimedOut timeout (now 0) p = true
    · simp only [StopAndWait.tryGetPacketSpan, hdue, ↓reduceIte]
      exact ⟨[p.updateLastTxTime (now 1)], rfl, rfl,
        fun _ hb => ⟨p, List.mem_singleton_self p, (Option.some.inj hb).symm⟩⟩
    · simp only [StopAndWait.tryGetPacketSpan, hdue]
      exact ⟨[p], rfl, rfl, fun _ hb => by cases hb⟩

theorem Keeps.acknowledgePacket (h : b.Keeps q) (a : SequenceNumber) :
    ∃ k, (b.acknowledgePacket a).Keeps (q.drop k) ∧ k ≤ q.length ∧
      (0 < k → ∃ o ∈ q, o.info.sequenceNumber = a) := by
  obtain ⟨timeout, _ | p⟩ := b
  · exact ⟨0, h, Nat.zero_le _, fun hk => absurd hk (Nat.lt_irrefl 0)⟩
  · obtain rfl : [p] = q := h
    by_cases ha : a = p.info.sequenceNumber
    · simp only [StopAndWait.acknowledgePacket, ha, ↓reduceIte]
      exact ⟨1, rfl, Nat.le_refl 1, fun _ => ⟨p, List.mem_singleton_self p, rfl⟩⟩
    · simp only [StopAndWait.acknowledgePacket, ha, ↓reduceIte]
      exact ⟨0, rfl, Nat.zero_le _, fun hk => absurd hk (Nat.lt_irrefl 0)⟩

theorem Keeps.length_le (h : b.Keeps q) : q.length ≤ 1 := by
  rw [← h]
  exact Option.length_toList_le

structure KeepsFrom (b : StopAndWait) (base : ℕ) (q : List TransmitBufferObject) : Prop where
  keeps : b.Keeps q
  bound : base + q.length ≤ 65536
  sequence : ∀ i o, q[i]? = some o → o.info.sequenceNumber = UInt16.ofNat (base + i)

variable {base : ℕ}

theorem new_keepsFrom (timeout : ℤ) : (StopAndWait.new timeout).KeepsFrom 0 [] :=
  ⟨rfl, by decide, by simp⟩

theorem KeepsFrom.addPacket (h : b.KeepsFrom base q) (hready : b.readyForNewPacket = true)
    {o : TransmitBufferObject} (ho : o.info.sequenceNumber = UInt16.ofNat (base + q.length))
    (hb : base + q.length < 65536) : ∃ b', b.addPacket o = .ok b' ∧ b'.KeepsFrom base (q ++ [o]) := by
  obtain ⟨rfl, b', hadd, hb'⟩ := h.keeps.addPacket hready o
  refine ⟨b', hadd, hb', hb, fun i o' ho' => ?_⟩
  obtain ⟨rfl, rfl⟩ : i = 0 ∧ o = o' := by simpa [List.getElem?_singleton] using ho'
  exact ho

theorem KeepsFrom.tryGetPacketSpan (h : b.KeepsFrom base q) (now : Clock) :
    ∃ q', (b.tryGetPacketSpan now).2.KeepsFrom base q' ∧
      q'.map TransmitBufferObject.held = q.map TransmitBufferObject.held := by
  obtain ⟨q', hq', hheld, -⟩ := h.keeps.tryGetPacketSpan now
  have hlen : q'.length = q.length := by
    simpa using congrArg List.length hheld
  refine ⟨q', ⟨hq', hlen ▸ h.bound, fun i o ho => ?_⟩, hheld⟩
  have hi := congrArg (fun l => l[i]?) hheld
  simp only [List.getElem?_map, ho, Option.map_some] at hi
  obtain ⟨o', ho', heq⟩ := Option.map_eq_some_iff.mp hi.symm
  rw [← h.sequence i o' ho']
  exact (congrArg Prod.snd heq).symm

theorem KeepsFrom.acknowledgePacket (h : b.KeepsFrom base q) (a : SequenceNumber) :
    ∃ k, (b.acknowledgePacket a).KeepsFrom (base + k) (q.drop k) ∧ k ≤ q.length ∧
      base + k ≤ max base (a.toNat + 1) := by
  obtain ⟨k, hk, hle, hacked⟩ := h.keeps.acknowledgePacket a
  have hlen := h.keeps.length_le
  have hbound := h.bound
  refine ⟨k, ⟨hk, ?_, fun i o ho => ?_⟩, hle, ?_⟩
  · rw [List.length_drop]
    omega
  · rw [List.getElem?_drop] at ho
    rw [h.sequence _ o ho, Nat.add_assoc]
  · by_cases hpos : 0 < k
    · obtain ⟨o, ho, ha⟩ := hacked hpos
      obtain ⟨i, hi⟩ := List.getElem?_of_mem ho
      have hi' : i < q.length := (List.getElem?_eq_some_iff.mp hi).1
      obtain rfl : i = 0 := by omega
      rw [← ha, h.sequence 0 o hi, toNat_ofNat_of_lt (by omega)]
      omega
    · omega

end StopAndWait

instance : LawfulRetransmission StopAndWait where
  capacity _ := 1
  Holds b q := b.Keeps q
  Aligned b base q := b.KeepsFrom base q
  addPacket h hready o := by
    obtain ⟨rfl, b', hadd, hb'⟩ := h.addPacket hready o
    exact ⟨b', hadd, hb'⟩
  tryGetPacketSpan h now := by
    obtain ⟨q', hq', hheld, hbytes⟩ := h.tryGetPacketSpan now
    exact ⟨_, _, q', rfl, hq', hheld, hbytes⟩
  acknowledgePacket h a := by
    obtain ⟨k, hk, -⟩ := h.acknowledgePacket a
    exact ⟨_, k, rfl, hk⟩
  aligned_length h := h.keeps.length_le
  aligned_sequence h := h.sequence
  aligned_addPacket h hready ho hb := by
    obtain ⟨b', hadd, hb'⟩ := h.addPacket hready ho hb
    exact ⟨b', hadd, hb', rfl⟩
  aligned_tryGetPacketSpan h now := by
    obtain ⟨q', hq', hheld⟩ := h.tryGetPacketSpan now
    exact ⟨_, _, q', rfl, hq', hheld, rfl⟩
  aligned_acknowledgePacket h _ := by
    obtain ⟨k, hk, hle, hbound⟩ := h.acknowledgePacket _
    exact ⟨_, k, rfl, hk, hle, hbound, rfl⟩

end Rt

end ArqBenchmark
