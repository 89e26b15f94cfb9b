import Mathlib.Data.Finset.Erase
import Mathlib.Data.Finset.Insert
import Mathlib.Tactic.Common

namespace ArqBenchmark.Ownership

variable {ι ρ : Type}

/-- `holds` says which resource each holder has, `opened` which resources there are. -/
structure Exclusive (holds : ι → Option ρ) (opened : Finset ρ) : Prop where
  held_open : ∀ i r, holds i = some r → r ∈ opened
  unique : ∀ i j r, holds i = some r → holds j = some r → i = j

structure Owned (holds : ι → Option ρ) (opened : Finset ρ) : Prop extends Exclusive holds opened where
  held : ∀ r ∈ opened, ∃ i, holds i = some r

variable {holds : ι → Option ρ} {opened : Finset ρ} {i j : ι} {r : ρ}

theorem Exclusive.lose [DecidableEq ρ] (h : Exclusive holds opened) (r : ρ) :
    Exclusive holds (insert r opened) where
  held_open k s hk := Finset.mem_insert_of_mem (h.held_open k s hk)
  unique := h.unique

theorem Exclusive.not_owned_lose [DecidableEq ρ] (h : Exclusive holds opened) (hr : r ∉ opened) :
    ¬ Owned holds (insert r opened) := by
  intro hlost
  obtain ⟨k, hk⟩ := hlost.held r (Finset.mem_insert_self r opened)
  exact hr (h.held_open k r hk)

section Holders

variable [DecidableEq ι]

/-- What `i` has goes to `j`, and what `j` had is forgotten. -/
def move (holds : ι → Option ρ) (i j : ι) : ι → Option ρ :=
  Function.update (Function.update holds i none) j (holds i)

theorem update_eq_some {x : Option ρ} {k : ι} : Function.update holds i x k = some r ↔
    k = i ∧ x = some r ∨ k ≠ i ∧ holds k = some r := by
  by_cases hk : k = i
  · subst hk
    simp only [Function.update_self, true_and, ne_eq, not_true_eq_false, false_and, or_false]
  · simp only [Function.update_of_ne hk, hk, false_and, false_or, ne_eq, not_false_eq_true, true_and]

theorem move_eq_some {k : ι} : move holds i j k = some r ↔
    k = j ∧ holds i = some r ∨ k ≠ j ∧ k ≠ i ∧ holds k = some r := by
  simp only [move, update_eq_some, reduceCtorEq, and_false, false_or]

theorem move_self (holds : ι → Option ρ) (i : ι) : move holds i i = holds := by
  rw [move, Function.update_idem, Function.update_eq_self]

theorem Exclusive.forget (h : Exclusive holds opened) (i : ι) :
    Exclusive (Function.update holds i none) opened := by
  constructor
  · intro k r hk
    rcases update_eq_some.mp hk with ⟨-, hnone⟩ | ⟨-, hk⟩
    · cases hnone
    · exact h.held_open k r hk
  · intro k l r hk hl
    rcases update_eq_some.mp hk with ⟨-, hnone⟩ | ⟨-, hk⟩
    · cases hnone
    · rcases update_eq_some.mp hl with ⟨-, hnone⟩ | ⟨-, hl⟩
      · cases hnone
      · exact h.unique k l r hk hl

theorem Exclusive.move (h : Exclusive holds opened) (i j : ι) : Exclusive (move holds i j) opened := by
  constructor
  · intro k r hk
    rcases move_eq_some.mp hk with ⟨-, hi⟩ | ⟨-, -, hk⟩
    · exact h.held_open i r hi
    · exact h.held_open k r hk
  · intro k l r hk hl
    rcases move_eq_some.mp hk with ⟨hkj, hi⟩ | ⟨-, hki, hk⟩
    · rcases move_eq_some.mp hl with ⟨hlj, -⟩ | ⟨-, hli, hl⟩
      · exact hkj.trans hlj.symm
      · exact absurd (h.unique l i r hl hi) hli
    · rcases move_eq_some.mp hl with ⟨-, hi⟩ | ⟨-, -, hl⟩
      · exact absurd (h.unique k i r hk hi) hki
      · exact h.unique k l r hk hl

theorem Owned.move_iff (h : Owned holds opened) : Owned (move holds i j) opened ↔ j = i ∨ holds j = none := by
  constructor
  · intro hmoved
    by_contra hlost
    obtain ⟨hji, hj⟩ := not_or.mp hlost
    obtain ⟨r, hr⟩ := Option.ne_none_iff_exists'.mp hj
    obtain ⟨k, hk⟩ := hmoved.held r (h.held_open j r hr)
    rcases move_eq_some.mp hk with ⟨-, hi⟩ | ⟨hkj, -, hk⟩
    · exact hji (h.unique j i r hr hi)
    · exact hkj (h.unique k j r hk hr)
  · rintro (rfl | hj)
    · rwa [move_self]
    · refine ⟨h.toExclusive.move i j, fun r hr => ?_⟩
      obtain ⟨k, hk⟩ := h.held r hr
      by_cases hki : k = i
      · exact ⟨j, move_eq_some.mpr (.inl ⟨rfl, hki ▸ hk⟩)⟩
      · refine ⟨k, move_eq_some.mpr (.inr ⟨?_, hki, hk⟩)⟩
        rintro rfl
        rw [hj] at hk
        cases hk

variable [DecidableEq ρ]

theorem Exclusive.acquire (h : Exclusive holds opened) (i : ι) (hr : r ∉ opened) :
    Exclusive (Function.update holds i (some r)) (insert r opened) := by
  constructor
  · intro k s hk
    rcases update_eq_some.mp hk with ⟨-, hs⟩ | ⟨-, hk⟩
    · cases hs
      exact Finset.mem_insert_self _ _
    · exact Finset.mem_insert_of_mem (h.held_open k s hk)
  · intro k l s hk hl
    rcases update_eq_some.mp hk with ⟨hki, hs⟩ | ⟨-, hk⟩
    · rcases update_eq_some.mp hl with ⟨hli, -⟩ | ⟨-, hl⟩
      · exact hki.trans hli.symm
      · cases hs
        exact absurd (h.held_open l _ hl) hr
    · rcases update_eq_some.mp hl with ⟨-, hs⟩ | ⟨-, hl⟩
      · cases hs
        exact absurd (h.held_open k _ hk) hr
      · exact h.unique k l s hk hl

theorem Exclusive.release (h : Exclusive holds opened) (hi : holds i = some r) :
    Exclusive (Function.update holds i none) (opened.erase r) := by
  refine ⟨fun k s hk => ?_, (h.forget i).unique⟩
  rcases update_eq_some.mp hk with ⟨-, hnone⟩ | ⟨hki, hk⟩
  · cases hnone
  · refine Finset.mem_erase.mpr ⟨?_, h.held_open k s hk⟩
    rintro rfl
    exact hki (h.unique k i s hk hi)

theorem Owned.acquire_iff (h : Owned holds opened) (hr : r ∉ opened) :
    Owned (Function.update holds i (some r)) (insert r opened) ↔ holds i = none := by
  constructor
  · intro hacquired
    apply Option.eq_none_iff_forall_ne_some.mpr
    intro s hs
    obtain ⟨k, hk⟩ := hacquired.held s (Finset.mem_insert_of_mem (h.held_open i s hs))
    rcases update_eq_some.mp hk with ⟨-, hnew⟩ | ⟨hki, hk⟩
    · cases hnew
      exact hr (h.held_open i _ hs)
    · exact hki (h.unique k i s hk hs)
  · intro hi
    refine ⟨h.acquire i hr, fun s hs => ?_⟩
    rcases Finset.mem_insert.mp hs with rfl | hs
    · exact ⟨i, Function.update_self _ _ _⟩
    · obtain ⟨k, hk⟩ := h.held s hs
      refine ⟨k, update_eq_some.mpr (.inr ⟨?_, hk⟩)⟩
      rintro rfl
      rw [hi] at hk
      cases hk

theorem Owned.release (h : Owned holds opened) (hi : holds i = some r) :
    Owned (Function.update holds i none) (opened.erase r) := by
  refine ⟨h.toExclusive.release hi, fun s hs => ?_⟩
  obtain ⟨hne, hs⟩ := Finset.mem_erase.mp hs
  obtain ⟨k, hk⟩ := h.held s hs
  refine ⟨k, update_eq_some.mpr (.inr ⟨?_, hk⟩)⟩
  rintro rfl
  exact hne (Option.some.inj (hk.symm.trans hi))

end Holders

end ArqBenchmark.Ownership
