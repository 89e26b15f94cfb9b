import Mathlib.Data.List.Basic
import Mathlib.Tactic.Common

namespace ArqBenchmark.BoundedFifo

/-- A queue of at most `capacity` items, the oldest first. -/
structure Fifo (α : Type) where
  capacity : ℕ
  items : List α

variable {α γ : Type}

namespace Fifo

def empty (capacity : ℕ) : Fifo α := ⟨capacity, []⟩

def push (q : Fifo α) (x : α) : Option (Fifo α) :=
  if q.items.length < q.capacity then some { q with items := q.items ++ [x] } else none

def popWhile (p : α → Bool) (q : Fifo α) : Fifo α := { q with items := q.items.dropWhile p }

def hasRoom (q : Fifo α) : Bool := q.items.length < q.capacity

def nonempty (q : Fifo α) : Bool := 0 < q.items.length

end Fifo

/-- Finds the first item that is due, where item `k` is judged by `due k`, and replaces it. -/
def touchFirst (due : ℕ → α → Bool) (touch : ℕ → α → α) : List α → Option (α × List α)
  | [] => none
  | x :: xs =>
    if due 0 x then some (x, touch 0 x :: xs)
    else (touchFirst (fun k => due (k + 1)) (fun k => touch (k + 1)) xs).map
      (fun r => (r.1, x :: r.2))

theorem touchFirst_eq_some {due : ℕ → α → Bool} {touch : ℕ → α → α} {xs : List α} {k : ℕ} {x : α}
    (hx : xs[k]? = some x) (hdue : due k x = true)
    (hearlier : ∀ j < k, ∀ y, xs[j]? = some y → due j y = false) :
    touchFirst due touch xs = some (x, xs.set k (touch k x)) := by
  induction xs generalizing due touch k with
  | nil => simp at hx
  | cons y ys ih =>
    cases k with
    | zero =>
      obtain rfl : y = x := by simpa using hx
      simp only [touchFirst, hdue, ↓reduceIte, List.set_cons_zero]
    | succ k =>
      have hy : due 0 y = false := hearlier 0 (by omega) y rfl
      have hrest : touchFirst (fun k => due (k + 1)) (fun k => touch (k + 1)) ys =
          some (x, ys.set k (touch (k + 1) x)) :=
        ih (by simpa using hx) hdue (fun j hj => hearlier (j + 1) (by omega))
      rw [touchFirst, hy, hrest]
      rfl

theorem touchFirst_eq_none {due : ℕ → α → Bool} {touch : ℕ → α → α} {xs : List α}
    (h : ∀ j y, xs[j]? = some y → due j y = false) : touchFirst due touch xs = none := by
  induction xs generalizing due touch with
  | nil => rfl
  | cons y ys ih =>
    rw [touchFirst, h 0 y rfl, ih (fun j => h (j + 1))]
    rfl

theorem touchFirst_eq_set {due : ℕ → α → Bool} {touch : ℕ → α → α} {xs ys : List α} {x : α}
    (h : touchFirst due touch xs = some (x, ys)) : ∃ k, xs[k]? = some x ∧ ys = xs.set k (touch k x) := by
  induction xs generalizing due touch ys with
  | nil => cases h
  | cons y xs ih =>
    rw [touchFirst] at h
    split at h
    · obtain ⟨rfl, rfl⟩ := Prod.mk.inj (Option.some.inj h)
      exact ⟨0, rfl, rfl⟩
    · obtain ⟨⟨x', zs⟩, hr, heq⟩ := Option.map_eq_some_iff.mp h
      have hx : x' = x := congrArg Prod.fst heq
      have hys : y :: zs = ys := congrArg Prod.snd heq
      obtain ⟨k, hk, hset⟩ := ih (hx ▸ hr)
      exact ⟨k + 1, hk, by rw [← hys, hset, List.set_cons_succ]⟩

theorem touchFirst_map {f : γ → α} {due : ℕ → α → Bool} {touch : ℕ → α → α}
    {g : ℕ → γ → γ} (ht : ∀ k x, f (g k x) = touch k (f x)) (xs : List γ) :
    touchFirst due touch (xs.map f) =
      (touchFirst (fun k x => due k (f x)) g xs).map (fun r => (f r.1, r.2.map f)) := by
  induction xs generalizing due touch g with
  | nil => rfl
  | cons x xs ih =>
    simp only [List.map_cons, touchFirst]
    split
    · simp only [Option.map_some, List.map_cons, ht]
    · rw [ih (fun k x => ht (k + 1) x)]
      simp only [Option.map_map]
      rfl

section Rounds

variable {due : α → Bool} {touch : α → α}

def touchAll (due : α → Bool) (touch : α → α) (xs : List α) : List α :=
  xs.map fun x => if due x then touch x else x

theorem touchFirst_of_none_due {xs : List α} (h : xs.filter due = []) :
    touchFirst (fun _ => due) (fun _ => touch) xs = none ∧ touchAll due touch xs = xs := by
  rw [List.filter_eq_nil_iff] at h
  constructor
  · exact touchFirst_eq_none (fun j x hx => by simpa using h x (List.mem_of_getElem? hx))
  · have hsame : ∀ x ∈ xs, (if due x then touch x else x) = id x := fun x hx => if_neg (h x hx)
    rw [touchAll, List.map_congr_left hsame, List.map_id]

theorem filter_touchAll (htouch : ∀ x, due (touch x) = false) (xs : List α) :
    (touchAll due touch xs).filter due = [] := by
  rw [List.filter_eq_nil_iff]
  intro y hy
  obtain ⟨x, -, rfl⟩ := List.mem_map.mp hy
  by_cases hx : due x = true
  · rw [if_pos hx, htouch]
    exact Bool.false_ne_true
  · rwa [if_neg hx]

theorem touchFirst_of_due (htouch : ∀ x, due (touch x) = false) {xs rest : List α} {x : α}
    (h : xs.filter due = x :: rest) :
    ∃ ys, touchFirst (fun _ => due) (fun _ => touch) xs = some (x, ys) ∧ ys.filter due = rest ∧
      touchAll due touch ys = touchAll due touch xs := by
  induction xs with
  | nil => cases h
  | cons y xs ih =>
    by_cases hy : due y = true
    · rw [List.filter_cons_of_pos hy] at h
      obtain ⟨rfl, rfl⟩ := List.cons.inj h
      refine ⟨touch y :: xs, ?_, ?_, ?_⟩
      · simp only [touchFirst, hy, ↓reduceIte]
      · rw [List.filter_cons_of_neg (by rw [htouch]; exact Bool.false_ne_true)]
      · simp only [touchAll, List.map_cons, htouch, hy, Bool.false_eq_true, ↓reduceIte]
    · rw [List.filter_cons_of_neg hy] at h
      obtain ⟨ys, hfirst, hrest, hall⟩ := ih h
      refine ⟨y :: ys, ?_, ?_, ?_⟩
      · rw [touchFirst, if_neg hy, hfirst]
        rfl
      · rw [List.filter_cons_of_neg hy, hrest]
      · rw [touchAll] at hall
        simp only [touchAll, List.map_cons, hy, Bool.false_eq_true, ↓reduceIte, hall]

end Rounds

theorem dropWhile_eq_drop {p : α → Bool} {xs : List α} {k : ℕ}
    (h : ∀ j x, xs[j]? = some x → (p x = true ↔ j < k)) : xs.dropWhile p = xs.drop k := by
  induction xs generalizing k with
  | nil => simp
  | cons x xs ih =>
    have hx := h 0 x rfl
    cases k with
    | zero => simp only [List.dropWhile_cons, Bool.eq_false_iff.mpr (fun hp => absurd (hx.mp hp) (by omega)),
        Bool.false_eq_true, ↓reduceIte, List.drop_zero]
    | succ k =>
      simp only [List.dropWhile_cons, hx.mpr (by omega), ↓reduceIte, List.drop_succ_cons]
      exact ih (fun j y hy => by rw [h (j + 1) y hy]; omega)

end ArqBenchmark.BoundedFifo
