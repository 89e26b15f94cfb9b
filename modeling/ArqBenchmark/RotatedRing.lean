import Mathlib.Data.List.Rotate
import Mathlib.Tactic.Common
import ArqBenchmark.Loops

namespace ArqBenchmark.RotatedRing

variable {α : Type}

theorem rotate_set (ring : List α) (start : ℕ) {i : ℕ} (hi : i < ring.length) (v : α) :
    (ring.set ((start + i) % ring.length) v).rotate start = (ring.rotate start).set i v := by
  apply List.ext_getElem
  · simp only [List.length_rotate, List.length_set]
  · intro k hk _
    simp only [List.length_rotate, List.length_set] at hk
    simp only [List.getElem_rotate, List.getElem_set, List.length_set]
    by_cases h : i = k
    · subst h
      simp only [Nat.add_comm i start, ↓reduceIte]
    · have hne : (start + i) % ring.length ≠ (k + start) % ring.length := by
        intro he
        rw [Nat.add_comm k start] at he
        exact h (Loops.offset_inj hi hk he)
      simp only [h, hne, ↓reduceIte]

theorem getElem?_offset (ring : List α) (start : ℕ) {i : ℕ} (hi : i < ring.length) :
    ring[(start + i) % ring.length]? = (ring.rotate start)[i]? := by
  rw [List.getElem?_rotate hi, Nat.add_comm]

theorem rotate_advance {ring front back : List α} {start : ℕ}
    (h : ring.rotate start = front ++ back) :
    ring.rotate ((start + front.length) % ring.length) = back ++ front := by
  rw [List.rotate_mod, ← List.rotate_rotate, h, List.rotate_append_length_eq]

def padded (size : ℕ) (items : List α) : List (Option α) :=
  items.map some ++ List.replicate (size - items.length) none

theorem padded_length {size : ℕ} {items : List α} (h : items.length ≤ size) :
    (padded size items).length = size := by
  simp only [padded, List.length_append, List.length_map, List.length_replicate]
  omega

theorem length_le_of_padded {size : ℕ} {items : List α} (h : (padded size items).length = size) :
    items.length ≤ size := by
  simp only [padded, List.length_append, List.length_map, List.length_replicate] at h
  omega

theorem padded_getElem? {size i : ℕ} (items : List α) (hi : i < size) :
    (padded size items)[i]? = some items[i]? := by
  by_cases h : i < items.length
  · rw [padded, List.getElem?_append_left (by rwa [List.length_map]), List.getElem?_map,
      List.getElem?_eq_getElem h]
    rfl
  · rw [padded, List.getElem?_append_right (by rw [List.length_map]; omega), List.getElem?_replicate,
      List.length_map, if_pos (by omega), List.getElem?_eq_none (by omega)]

theorem padded_push {size : ℕ} {items : List α} (h : items.length < size) (x : α) :
    (padded size items).set items.length (some x) = padded size (items ++ [x]) := by
  obtain ⟨free, hfree⟩ : ∃ free, size - items.length = free + 1 := ⟨size - items.length - 1, by omega⟩
  have hrest : size - (items ++ [x]).length = free := by
    rw [List.length_append, List.length_singleton]
    omega
  rw [padded, padded, hfree, hrest, List.set_append_right _ _ (by rw [List.length_map]),
    List.length_map, Nat.sub_self, List.replicate_succ, List.set_cons_zero, List.map_append]
  simp only [List.map_cons, List.map_nil, List.append_assoc, List.cons_append, List.nil_append]

theorem padded_set {size k : ℕ} {items : List α} (h : k < items.length) (x : α) :
    (padded size items).set k (some x) = padded size (items.set k x) := by
  rw [padded, padded, List.set_append_left _ _ (by rwa [List.length_map]), List.length_set, List.map_set]

theorem padded_drop {size k : ℕ} {items : List α} (hk : k ≤ size) (h : items.length ≤ size) :
    (padded size items).drop k ++ List.replicate k none = padded size (items.drop k) := by
  rw [padded, padded, List.drop_append, List.drop_replicate, List.append_assoc, List.replicate_append_replicate,
    List.map_drop, List.length_map, List.length_drop]
  congr 2
  omega

theorem clear_next {ring : List (Option α)} {i : ℕ} (hi : i < ring.length) :
    (List.replicate i none ++ ring.drop i).set i none =
      List.replicate (i + 1) none ++ ring.drop (i + 1) := by
  rw [List.set_append_right _ _ (by rw [List.length_replicate]), List.length_replicate, Nat.sub_self,
    List.drop_eq_getElem_cons hi, List.set_cons_zero, List.replicate_succ', List.append_assoc]
  rfl

theorem exists_filled_front (w : List (Option α)) :
    ∃ (run : List α) (rest : List (Option α)), w = run.map some ++ rest ∧
      (rest = [] ∨ ∃ t, rest = none :: t) := by
  induction w with
  | nil => exact ⟨[], [], rfl, .inl rfl⟩
  | cons slot w ih =>
    cases slot with
    | none => exact ⟨[], none :: w, rfl, .inr ⟨w, rfl⟩⟩
    | some x =>
      obtain ⟨run, rest, rfl, hrest⟩ := ih
      exact ⟨x :: run, rest, rfl, hrest⟩

end ArqBenchmark.RotatedRing
