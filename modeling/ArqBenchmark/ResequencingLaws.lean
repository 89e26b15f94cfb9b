import ArqBenchmark.SelectiveRepeatInsertion

namespace ArqBenchmark

/-- How a resequencing buffer is seen from outside. The packets below `frontier` have been accepted in
order, those of `pending` wait for `getNextPacket` and those of `window` for an earlier packet. `early`
buffers acknowledge 65535 before they have accepted anything in order. -/
class ResequencingView (R : Type) where
  early : Prop
  Works : R → Prop
  Holds : R → Prop
  frontier : R → ℕ
  pending : R → List DataPacket
  window : R → List DataPacket

open ResequencingView

/-- What `addPacket` does: `run` is the packets that it puts behind those of `pending`. -/
structure Taken {R : Type} [ResequencingBuffer R] [ResequencingView R] (r : R) (p : DataPacket)
    (ack : Option SequenceNumber) (r' : R) (run : List DataPacket) : Prop where
  pending_eq : pending r' = pending r ++ run
  kept : ∀ x, x ∈ run ∨ x ∈ window r' → x = p ∧ ResequencingBuffer.accepts r p = true ∨ x ∈ window r
  in_order : ∀ i x, run[i]? = some x → x.header.sequenceNumber.toNat = frontier r + i
  holds : frontier r + run.length ≤ 65535 → Holds r'
  frontier_le : frontier r + run.length ≤ 65535 → frontier r ≤ frontier r' ∧
    frontier r' ≤ frontier r + run.length
  ack_sound : frontier r + run.length ≤ 65535 → ∀ a ∈ ack, a.toNat < frontier r' ∨ early R ∧ a = 65535

class LawfulResequencing (R : Type) [ResequencingBuffer R] [ResequencingView R] : Prop where
  works_addPacket : ∀ {r : R}, Works r → ∀ p,
    ∃ ack r', ResequencingBuffer.addPacket r p = .ok (ack, r') ∧ Works r'
  works_getNextPacket : ∀ {r : R}, Works r → Works (ResequencingBuffer.getNextPacket r).2
  addPacket : ∀ {r r' : R} {p ack}, Holds r → ResequencingBuffer.addPacket r p = .ok (ack, r') →
    ∃ run, Taken r p ack r' run
  getNextPacket_some : ∀ {r r' : R} {p}, Holds r → ResequencingBuffer.getNextPacket r = (some p, r') →
    pending r = p :: pending r' ∧ window r' = window r ∧
      (frontier r ≤ 65535 → Holds r' ∧ frontier r' = frontier r)
  getNextPacket_none : ∀ {r r' : R}, ResequencingBuffer.getNextPacket r = (none, r') →
    r' = r ∧ pending r = []

namespace Rs

instance : ResequencingView StopAndWait where
  early := False
  Works _ := True
  Holds _ := True
  frontier b := b.expectedPacketSeqNum.toNat + if b.packetForDelivery.isSome then 1 else 0
  pending b := b.packetForDelivery.toList
  window _ := []

theorem StopAndWait.taken_none {b : StopAndWait} {p : DataPacket} {ack : Option SequenceNumber}
    (ha : ∀ a ∈ ack, a.toNat < frontier b) : Taken b p ack b [] where
  pending_eq := (List.append_nil _).symm
  kept x hx := by simp [window] at hx
  in_order i x hx := by simp at hx
  holds _ := trivial
  frontier_le _ := ⟨Nat.le_refl _, Nat.le_refl _⟩
  ack_sound _ a h := .inl (ha a h)

theorem StopAndWait.addPacket_taken (b : StopAndWait) (p : DataPacket) :
    ∃ run, Taken b p (b.addPacket p).1 (b.addPacket p).2 run := by
  obtain ⟨expected, _ | waiting⟩ := b
  · by_cases heq : p.header.sequenceNumber = expected
    · refine ⟨[p], ?_⟩
      simp only [StopAndWait.addPacket, DataPacket.getHeader, heq, Option.isSome_none, Bool.false_eq_true,
        ↓reduceIte]
      refine ⟨rfl, ?_, ?_, fun _ => trivial, fun _ => ⟨?_, Nat.le_refl _⟩, ?_⟩
      · rintro x (hx | hx)
        · refine .inl ⟨List.mem_singleton.mp hx, ?_⟩
          simp [ResequencingBuffer.accepts, StopAndWait.accepts, DataPacket.getHeader, heq]
        · cases hx
      · intro i x hx
        obtain ⟨rfl, rfl⟩ : i = 0 ∧ p = x := by simpa [List.getElem?_singleton] using hx
        rw [heq]
        rfl
      · exact Nat.le_succ _
      · rintro - a ha
        obtain rfl : expected = a := Option.some.inj ha
        exact .inl (Nat.lt_succ_self _)
    · refine ⟨[], ?_⟩
      by_cases hlt : p.header.sequenceNumber < expected
      · simp only [StopAndWait.addPacket, DataPacket.getHeader, heq, hlt, Option.isSome_none,
          Bool.false_eq_true, ↓reduceIte]
        refine taken_none (fun a ha => ?_)
        obtain rfl : p.header.sequenceNumber = a := Option.some.inj ha
        exact hlt
      · simp only [StopAndWait.addPacket, DataPacket.getHeader, heq, hlt, Option.isSome_none,
          Bool.false_eq_true, ↓reduceIte]
        exact taken_none (fun a ha => by cases ha)
  · exact ⟨[], taken_none (fun a ha => by cases ha)⟩

instance : LawfulResequencing StopAndWait where
  works_addPacket _ _ := ⟨_, _, rfl, trivial⟩
  works_getNextPacket _ := trivial
  addPacket := by
    rintro b b' p ack - hadd
    obtain ⟨rfl, rfl⟩ := Prod.mk.inj (Except.ok.inj hadd)
    exact b.addPacket_taken p
  getNextPacket_some := by
    rintro ⟨expected, _ | waiting⟩ b' p - hnext
    · cases hnext
    · obtain ⟨hp, rfl⟩ := Prod.mk.inj hnext
      obtain rfl := Option.some.inj hp
      refine ⟨rfl, rfl, fun hle => ⟨trivial, ?_⟩⟩
      have hle' : expected.toNat + 1 ≤ 65535 := hle
      change (expected + 1).toNat + 0 = expected.toNat + 1
      rw [UInt16.toNat_add, show (1 : UInt16).toNat = 1 from rfl]
      omega
  getNextPacket_none := by
    rintro ⟨expected, _ | waiting⟩ b' hnext
    · exact ⟨(Prod.mk.inj hnext).2.symm, rfl⟩
    · cases hnext

instance : ResequencingView GoBackN where
  early := False
  Works _ := True
  Holds b := b.canSendAcks = true → 0 < b.nextSequenceNumber.toNat
  frontier b := b.nextSequenceNumber.toNat
  pending b := b.shadowBuffer
  window _ := []

theorem GoBackN.addPacket_taken {b : GoBackN} (h : Holds b) (p : DataPacket) :
    ∃ run, Taken b p (b.addPacket p).1 (b.addPacket p).2 run := by
  have hone : (1 : UInt16).toNat = 1 := rfl
  by_cases heq : p.header.sequenceNumber = b.nextSequenceNumber
  · have hnext : b.nextSequenceNumber.toNat + 1 ≤ 65535 →
        (b.nextSequenceNumber + 1).toNat = b.nextSequenceNumber.toNat + 1 := by
      intro hle
      rw [UInt16.toNat_add, hone]
      omega
    refine ⟨[p], ?_⟩
    simp only [GoBackN.addPacket, DataPacket.getHeader, heq, ↓reduceIte]
    refine ⟨rfl, ?_, ?_, fun hle _ => ?_, fun hle => ?_, ?_⟩
    · rintro x (hx | hx)
      · refine .inl ⟨List.mem_singleton.mp hx, ?_⟩
        simp [ResequencingBuffer.accepts, GoBackN.accepts, DataPacket.getHeader, heq]
      · cases hx
    · intro i x hx
      obtain ⟨rfl, rfl⟩ : i = 0 ∧ p = x := by simpa [List.getElem?_singleton] using hx
      rw [heq]
      rfl
    · change 0 < (b.nextSequenceNumber + 1).toNat
      rw [hnext hle]
      exact Nat.succ_pos _
    · change b.nextSequenceNumber.toNat ≤ (b.nextSequenceNumber + 1).toNat ∧
        (b.nextSequenceNumber + 1).toNat ≤ b.nextSequenceNumber.toNat + 1
      rw [hnext hle]
      exact ⟨Nat.le_succ _, Nat.le_refl _⟩
    · rintro hle a ha
      obtain rfl := Option.some.inj ha
      refine .inl ?_
      change b.nextSequenceNumber.toNat < (b.nextSequenceNumber + 1).toNat
      rw [hnext hle]
      exact Nat.lt_succ_self _
  · refine ⟨[], ?_⟩
    simp only [GoBackN.addPacket, DataPacket.getHeader, heq, ↓reduceIte]
    refine ⟨(List.append_nil _).symm, fun x hx => by simp [window] at hx, fun i x hx => by simp at hx,
      fun _ => h, fun _ => ⟨Nat.le_refl _, Nat.le_refl _⟩, fun _ a ha => .inl ?_⟩
    by_cases hcan : b.canSendAcks = true
    · rw [if_pos hcan] at ha
      obtain rfl := Option.some.inj ha
      have hpos := h hcan
      have hlt := b.nextSequenceNumber.toNat_lt
      change (b.nextSequenceNumber - 1).toNat < b.nextSequenceNumber.toNat
      rw [UInt16.toNat_sub, hone]
      omega
    · rw [if_neg hcan] at ha
      cases ha

instance : LawfulResequencing GoBackN where
  works_addPacket _ _ := ⟨_, _, rfl, trivial⟩
  works_getNextPacket _ := trivial
  addPacket := by
    rintro b b' p ack h hadd
    obtain ⟨rfl, rfl⟩ := Prod.mk.inj (Except.ok.inj hadd)
    exact GoBackN.addPacket_taken h p
  getNextPacket_some := by
    rintro ⟨_ | ⟨x, shadow⟩, next, can⟩ b' p h hnext
    · cases hnext
    · obtain ⟨hp, rfl⟩ := Prod.mk.inj hnext
      obtain rfl := Option.some.inj hp
      exact ⟨rfl, rfl, fun _ => ⟨h, rfl⟩⟩
  getNextPacket_none := by
    rintro ⟨_ | ⟨x, shadow⟩, next, can⟩ b' hnext
    · exact ⟨(Prod.mk.inj hnext).2.symm, rfl⟩
    · cases hnext

instance : ResequencingView SelectiveRepeat where
  early := True
  Works b := ∃ w, b.Settled w
  Holds b := ∃ w, b.Settled w
  frontier b := b.earliestExpected.toNat
  pending b := b.shadowBuffer
  window b := b.buffer.filterMap id

theorem SelectiveRepeat.Holds.mem_window {b : SelectiveRepeat} {w : List (Option DataPacket)} (h : b.Holds w)
    {p : DataPacket} : p ∈ ResequencingView.window b ↔ some p ∈ w := by
  rw [← h.view, List.mem_rotate]
  simp [ResequencingView.window]

theorem SelectiveRepeat.Added.taken {b b' : SelectiveRepeat} {w w' : List (Option DataPacket)} {p : DataPacket}
    {run : List DataPacket} (hb : b.Settled w) (h : Added b w p run b' w') : Taken b p b'.ack b' run := by
  have hmoved : ResequencingView.frontier b + run.length ≤ 65535 →
      b.earliestExpected.toNat ≤ b'.earliestExpected.toNat ∧
        b'.earliestExpected.toNat ≤ b.earliestExpected.toNat + run.length := by
    intro hle
    have hle' : b.earliestExpected.toNat + run.length ≤ 65535 := hle
    by_cases hfull : b.Completes p
    · rw [(h.stuck hfull).1]
      exact ⟨Nat.le_refl _, Nat.le_add_right _ _⟩
    · rw [h.moved hfull, UInt16.toNat_add, UInt16.toNat_ofNat']
      omega
  refine ⟨h.shadow, ?_, h.sequence, fun _ => ⟨w', h.settled⟩, hmoved, ?_⟩
  · intro x hx
    rw [h.settled.mem_window] at hx
    rw [hb.mem_window]
    exact h.kept x hx
  · rintro - a ha
    rw [SelectiveRepeat.ack] at ha
    split at ha
    · obtain rfl := Option.some.inj ha
      change (b'.earliestExpected - 1).toNat < b'.earliestExpected.toNat ∨ _
      have hlt := b'.earliestExpected.toNat_lt
      have hone : (1 : UInt16).toNat = 1 := rfl
      by_cases hzero : b'.earliestExpected = 0
      · rw [hzero]
        exact .inr ⟨trivial, rfl⟩
      · have hpos : b'.earliestExpected.toNat ≠ 0 := fun h0 => hzero (UInt16.toNat_inj.mp h0)
        rw [UInt16.toNat_sub, hone]
        exact .inl (by omega)
    · cases ha

instance : LawfulResequencing SelectiveRepeat where
  works_addPacket := by
    rintro b ⟨w, hw⟩ p
    obtain ⟨run, b', w', hadd, h⟩ := hw.addPacket p
    exact ⟨_, b', hadd, w', h.settled⟩
  works_getNextPacket := by
    rintro b ⟨w, hw⟩
    exact ⟨w, hw.getNextPacket⟩
  addPacket := by
    rintro b b' p ack ⟨w, hw⟩ hadd
    obtain ⟨run, b₁, w', hadd', h⟩ := hw.addPacket p
    obtain ⟨rfl, rfl⟩ := Prod.mk.inj (Except.ok.inj (hadd'.symm.trans hadd))
    exact ⟨run, h.taken hw⟩
  getNextPacket_some := by
    rintro b b' p ⟨w, hw⟩ hnext
    obtain ⟨hp, rfl⟩ := Prod.mk.inj hnext
    cases hs : b.shadowBuffer with
    | nil =>
      rw [hs] at hp
      cases hp
    | cons x shadow =>
      rw [hs] at hp
      obtain rfl : x = p := Option.some.inj hp
      exact ⟨hs, rfl, fun _ => ⟨⟨w, hw.withShadow _ _⟩, rfl⟩⟩
  getNextPacket_none := by
    rintro b b' hnext
    obtain ⟨hp, rfl⟩ := Prod.mk.inj hnext
    cases hs : b.shadowBuffer with
    | nil => exact ⟨by simp only [← hs], hs⟩
    | cons x shadow =>
      rw [hs] at hp
      cases hp

end Rs

end ArqBenchmark
