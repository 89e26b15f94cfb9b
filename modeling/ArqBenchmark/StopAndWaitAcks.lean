import ArqBenchmark.DrainedExchange
import ArqBenchmark.Runs

namespace ArqBenchmark.Rs

structure Accepting where
  buffer : StopAndWait
  accepted : List DataPacket
deriving DecidableEq

namespace Accepting

def new (first : SequenceNumber) : Accepting := ⟨.new first, []⟩

def exchange (fuel : ℕ) (s : Accepting) (packet : DataPacket) : Option (Exchange × Accepting) :=
  match ArqBenchmark.exchange (fuel + 2) s.buffer packet with
  | .ok (e, b) => some (e, ⟨b, if e.accepted then s.accepted ++ [packet] else s.accepted⟩)
  | .error _ => none

def next (fuel : ℕ) (s : Accepting) (packet : DataPacket) : Option Accepting :=
  (s.exchange fuel packet).map Prod.snd

/-- An ACK names a packet that has been accepted, and the last packet accepted is acknowledged whenever it
arrives again. -/
def AcksAccepted (fuel : ℕ) (s : Accepting) (packet : DataPacket) : Prop :=
  ∃ r ∈ s.exchange fuel packet,
    (∀ a ∈ r.1.ack, ∃ q ∈ r.2.accepted, q.header.sequenceNumber = a) ∧
    (∀ q ∈ s.accepted.getLast?, packet.header.sequenceNumber = q.header.sequenceNumber →
      r.1.ack = some q.header.sequenceNumber)
deriving Decidable

/-- The packet is not numbered below the first one before the numbers have rolled over, and it is not the
packet 65535 again. -/
def InOrderOfNumbers (first : SequenceNumber) (s : Accepting) (packet : DataPacket) : Prop :=
  ¬ (first.toNat + s.accepted.length < 65536 ∧ packet.header.sequenceNumber < first) ∧
    ¬ (s.accepted ≠ [] ∧ s.buffer.expectedPacketSeqNum = 0 ∧ packet.header.sequenceNumber = 65535)
deriving Decidable

structure Consecutive (first : SequenceNumber) (s : Accepting) : Prop where
  drained : s.buffer.packetForDelivery = none
  expected : s.buffer.expectedPacketSeqNum.toNat = (first.toNat + s.accepted.length) % 65536
  numbers : ∀ i q, s.accepted[i]? = some q → q.header.sequenceNumber.toNat = (first.toNat + i) % 65536

variable {first : SequenceNumber} {fuel : ℕ} {s t : Accepting} {p : DataPacket}

theorem new_consecutive (first : SequenceNumber) : (new first).Consecutive first where
  drained := rfl
  expected := (Nat.mod_eq_of_lt first.toNat_lt).symm
  numbers i q hq := by simp [new] at hq

theorem exchange_expected (fuel : ℕ) (h : s.buffer.packetForDelivery = none)
    (hp : p.header.sequenceNumber = s.buffer.expectedPacketSeqNum) :
    s.exchange fuel p = some (⟨true, some p.header.sequenceNumber, [p]⟩,
      ⟨⟨p.header.sequenceNumber + 1, none⟩, s.accepted ++ [p]⟩) := by
  obtain ⟨⟨expected, waiting⟩, accepted⟩ := s
  subst h hp
  simp only [exchange, StopAndWait.exchange_expected fuel rfl, ↓reduceIte]

theorem exchange_unexpected (fuel : ℕ) (h : s.buffer.packetForDelivery = none)
    (hp : p.header.sequenceNumber ≠ s.buffer.expectedPacketSeqNum) :
    s.exchange fuel p = some (⟨false, if p.header.sequenceNumber < s.buffer.expectedPacketSeqNum then
      some p.header.sequenceNumber else none, []⟩, s) := by
  obtain ⟨⟨expected, waiting⟩, accepted⟩ := s
  subst h
  simp only [exchange, StopAndWait.exchange_unexpected fuel hp]
  rfl

theorem Consecutive.next (h : s.Consecutive first) (ht : s.next fuel p = some t) : t.Consecutive first := by
  by_cases hp : p.header.sequenceNumber = s.buffer.expectedPacketSeqNum
  · rw [Accepting.next, exchange_expected fuel h.drained hp] at ht
    obtain rfl := Option.some.inj ht
    have hexpected := h.expected
    refine ⟨rfl, ?_, fun i q hq => ?_⟩
    · have hone : (1 : UInt16).toNat = 1 := rfl
      rw [List.length_append, List.length_singleton, UInt16.toNat_add, hp, hone]
      omega
    · by_cases hi : i < s.accepted.length
      · rw [List.getElem?_append_left hi] at hq
        exact h.numbers i q hq
      · rw [List.getElem?_append_right (by omega), List.getElem?_singleton] at hq
        split at hq
        · obtain rfl := Option.some.inj hq
          rw [hp, hexpected, show i = s.accepted.length by omega]
        · cases hq
  · rw [Accepting.next, exchange_unexpected fuel h.drained hp] at ht
    exact Option.some.inj ht ▸ h

theorem Consecutive.last (h : s.Consecutive first) {q : DataPacket} (hq : s.accepted.getLast? = some q) :
    0 < s.accepted.length ∧
      q.header.sequenceNumber.toNat = (first.toNat + (s.accepted.length - 1)) % 65536 := by
  rw [List.getLast?_eq_getElem?] at hq
  have hlt := (List.getElem?_eq_some_iff.mp hq).1
  exact ⟨by omega, h.numbers _ q hq⟩

theorem Consecutive.accepted_iff (h : s.Consecutive first) {sn : SequenceNumber}
    (hlt : sn < s.buffer.expectedPacketSeqNum) :
    (∃ q ∈ s.accepted, q.header.sequenceNumber = sn) ↔
      ¬ (first.toNat + s.accepted.length < 65536 ∧ sn < first) := by
  have hexpected := h.expected
  have hfirst := first.toNat_lt
  rw [UInt16.lt_iff_toNat_lt] at hlt
  rw [UInt16.lt_iff_toNat_lt]
  constructor
  · rintro ⟨q, hq, rfl⟩
    obtain ⟨i, hi⟩ := List.getElem?_of_mem hq
    have hnumber := h.numbers i q hi
    have hlast := (List.getElem?_eq_some_iff.mp hi).1
    omega
  · intro hrange
    -- Counting back from the expected number, `sn` is the number of an accepted packet.
    have hback : s.buffer.expectedPacketSeqNum.toNat - sn.toNat ≤ s.accepted.length := by omega
    have hi : s.accepted.length - (s.buffer.expectedPacketSeqNum.toNat - sn.toNat) < s.accepted.length := by
      omega
    refine ⟨_, List.getElem_mem hi, UInt16.toNat_inj.mp ?_⟩
    rw [h.numbers _ _ (List.getElem?_eq_getElem hi)]
    omega

theorem acksAccepted_expected (h : s.Consecutive first)
    (hp : p.header.sequenceNumber = s.buffer.expectedPacketSeqNum) : s.AcksAccepted fuel p := by
  refine ⟨_, exchange_expected fuel h.drained hp, fun a ha => ?_, fun q hq hagain => ?_⟩
  · exact ⟨p, List.mem_append_right _ (List.mem_singleton_self p), Option.some.inj ha⟩
  · rw [hagain]

theorem inOrderOfNumbers_expected (h : s.Consecutive first)
    (hp : p.header.sequenceNumber = s.buffer.expectedPacketSeqNum) : s.InOrderOfNumbers first p := by
  have hexpected := h.expected
  rw [← hp] at hexpected
  refine ⟨fun hbelow => ?_, fun hroll => ?_⟩
  · rw [UInt16.lt_iff_toNat_lt] at hbelow
    omega
  · rw [hp] at hroll
    exact absurd (hroll.2.1.symm.trans hroll.2.2) (by decide)

theorem acksAccepted_below (h : s.Consecutive first)
    (hlt : p.header.sequenceNumber < s.buffer.expectedPacketSeqNum) :
    s.AcksAccepted fuel p ↔ s.InOrderOfNumbers first p := by
  have hnumber := UInt16.lt_iff_toNat_lt.mp hlt
  have hp : p.header.sequenceNumber ≠ s.buffer.expectedPacketSeqNum := by
    rintro heq
    rw [heq] at hnumber
    exact Nat.lt_irrefl _ hnumber
  have hnonzero : s.buffer.expectedPacketSeqNum ≠ 0 := by
    intro hzero
    rw [hzero] at hnumber
    exact Nat.not_lt_zero _ hnumber
  have hagain : ∀ q ∈ s.accepted.getLast?, p.header.sequenceNumber = q.header.sequenceNumber →
      some p.header.sequenceNumber = some q.header.sequenceNumber := fun q _ hq => congrArg some hq
  rw [AcksAccepted, exchange_unexpected fuel h.drained hp]
  simp only [Option.mem_some_iff, exists_eq_left', hlt, ↓reduceIte, forall_eq', h.accepted_iff hlt,
    InOrderOfNumbers, hnonzero, false_and, and_false, not_false_eq_true, and_true]
  exact and_iff_left hagain

theorem acksAccepted_above (h : s.Consecutive first)
    (hgt : s.buffer.expectedPacketSeqNum < p.header.sequenceNumber) :
    s.AcksAccepted fuel p ↔ s.InOrderOfNumbers first p := by
  have hnumber := UInt16.lt_iff_toNat_lt.mp hgt
  have hexpected := h.expected
  have hsn := p.header.sequenceNumber.toNat_lt
  have hp : p.header.sequenceNumber ≠ s.buffer.expectedPacketSeqNum := by
    rintro heq
    rw [heq] at hnumber
    exact Nat.lt_irrefl _ hnumber
  have hlt : ¬ p.header.sequenceNumber < s.buffer.expectedPacketSeqNum := by
    rw [UInt16.lt_iff_toNat_lt]
    omega
  have hbelow : ¬ (first.toNat + s.accepted.length < 65536 ∧ p.header.sequenceNumber < first) := by
    rw [UInt16.lt_iff_toNat_lt]
    omega
  rw [AcksAccepted, exchange_unexpected fuel h.drained hp]
  simp only [Option.mem_some_iff, exists_eq_left', hlt, ↓reduceIte, InOrderOfNumbers, hbelow, reduceCtorEq,
    true_and, not_false_eq_true]
  -- No ACK is returned, which is right unless the packet is the last one accepted.
  constructor
  · rintro ⟨-, hagain⟩ ⟨hne, hzero, hmax⟩
    have hlast := h.last (List.getLast?_eq_some_getLast hne)
    refine hagain _ (List.getLast?_eq_some_getLast hne) (UInt16.toNat_inj.mp ?_)
    rw [hzero] at hexpected
    rw [hmax, hlast.2]
    change 0 = _ at hexpected
    change 65535 = _
    omega
  · intro hroll
    refine ⟨nofun, fun q hq heq => ?_⟩
    obtain ⟨hpos, hlast⟩ := h.last hq
    rw [← heq] at hlast
    refine hroll ⟨List.ne_nil_of_length_pos hpos, UInt16.toNat_inj.mp ?_, UInt16.toNat_inj.mp ?_⟩
    · change _ = 0
      omega
    · change _ = 65535
      omega

theorem acksAccepted_iff (h : s.Consecutive first) : s.AcksAccepted fuel p ↔ s.InOrderOfNumbers first p := by
  rcases Nat.lt_trichotomy p.header.sequenceNumber.toNat s.buffer.expectedPacketSeqNum.toNat with
    hlt | heq | hgt
  · exact acksAccepted_below h (UInt16.lt_iff_toNat_lt.mpr hlt)
  · have hp := UInt16.toNat_inj.mp heq
    exact iff_of_true (acksAccepted_expected h hp) (inOrderOfNumbers_expected h hp)
  · exact acksAccepted_above h (UInt16.lt_iff_toNat_lt.mpr hgt)

/-- Stop-and-wait acknowledges what it has accepted exactly as long as the numbers come in order. -/
theorem stop_and_wait_acks_accepted_iff (first : SequenceNumber) (fuel : ℕ) (packets : List DataPacket) :
    Runs.AlongRun (next fuel) (AcksAccepted fuel) (.new first) packets ↔
      Runs.AlongRun (next fuel) (InOrderOfNumbers first) (.new first) packets :=
  Runs.alongRun_congr (R := fun _ _ => True) (I := Consecutive first) (fun _ _ h _ => acksAccepted_iff h)
    (fun _ _ _ h _ _ ht => h.next ht) (new_consecutive first) (Runs.alongRun_true _ packets)

def emptyPacket (seqNum : SequenceNumber) : DataPacket := ⟨⟨0, seqNum, 0⟩, [0] ++ htons seqNum ++ [0, 0]⟩

/-- The last packet before the numbers roll over gets no ACK when it arrives again, and packet 3 gets one from a
buffer that expects packet 5 first. -/
theorem roll_over_not_acked_again :
    ¬ Runs.AlongRun (next 0) (AcksAccepted 0) (.new 65535) [emptyPacket 65535, emptyPacket 65535] ∧
      ¬ Runs.AlongRun (next 0) (AcksAccepted 0) (.new 5) [emptyPacket 3] := by
  constructor
  · intro h
    have hrolled : (new 65535).next 0 (emptyPacket 65535) = some ⟨⟨0, none⟩, [emptyPacket 65535]⟩ := by
      rw [next, exchange_expected 0 rfl rfl]
      rfl
    have hagain := (acksAccepted_iff ((new_consecutive 65535).next hrolled)).mp (h.2 _ hrolled).1
    exact hagain.2 ⟨List.cons_ne_nil _ _, rfl, rfl⟩
  · intro h
    have hbelow := (acksAccepted_iff (new_consecutive 5)).mp h.1
    exact hbelow.1 ⟨by decide, by decide⟩

end Accepting

end ArqBenchmark.Rs
