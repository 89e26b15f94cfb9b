import Mathlib.Data.Vector.Basic
import Mathlib.Tactic.Common

namespace ArqBenchmark.FixedFormat

variable {α β : Type} {size : ℕ}

structure Format (α β : Type) (size : ℕ) where
  encode : α → List β
  decode : List β → α
  encode_length : ∀ a, (encode a).length = size
  decode_encode : ∀ a rest, decode (encode a ++ rest) = a
  encode_decode : ∀ b, size ≤ b.length → encode (decode b) = b.take size

def Format.equiv (F : Format α β size) : α ≃ List.Vector β size where
  toFun a := ⟨F.encode a, F.encode_length a⟩
  invFun v := F.decode v.val
  left_inv a := by
    have h := F.decode_encode a []
    rwa [List.append_nil] at h
  right_inv v := by
    apply Subtype.ext
    change F.encode (F.decode v.val) = v.val
    rw [F.encode_decode v.val (Nat.le_of_eq v.2.symm), List.take_of_length_le (Nat.le_of_eq v.2)]

/-- The functions write and read the front of a buffer, and refuse a buffer that is too short. -/
structure Format.Implemented (F : Format α β size) (serialise : α → List β → Bool × List β)
    (deserialise : α → List β → Bool × α) : Prop where
  serialise_short : ∀ a b, b.length < size → serialise a b = (false, b)
  serialise_long : ∀ a b, size ≤ b.length → serialise a b = (true, F.encode a ++ b.drop size)
  deserialise_short : ∀ a b, b.length < size → deserialise a b = (false, a)
  deserialise_long : ∀ a b, size ≤ b.length → deserialise a b = (true, F.decode b)

/-- What a pair of codec functions is to do. `layout` is what goes into the first `size` symbols. -/
structure Exact (size : ℕ) (layout : α → List β) (serialise : α → List β → Bool × List β)
    (deserialise : α → List β → Bool × α) : Prop where
  layout_length : ∀ a, (layout a).length = size
  serialise_refuses : ∀ a b, serialise a b = (false, b) ↔ b.length < size
  serialise_writes : ∀ a b, size ≤ b.length → serialise a b = (true, layout a ++ b.drop size)
  recovers : ∀ a a₀ b, size ≤ b.length → deserialise a₀ (serialise a b).2 = (true, a)
  deserialise_refuses : ∀ a b, deserialise a b = (false, a) ↔ b.length < size
  deserialise_reads : ∀ a b, size ≤ b.length → (deserialise a b).1 = true
  reproduces : ∀ a b b', size ≤ b.length → size ≤ b'.length →
    serialise (deserialise a b).2 b' = (true, b.take size ++ b'.drop size)
  inverse : ∃ e : α ≃ List.Vector β size, ∀ (a : α) (v : List.Vector β size),
    serialise a v.val = (true, (e a).val) ∧ deserialise a v.val = (true, e.symm v)

theorem refuses_iff {γ : Type} {outcome : Bool × γ} {unchanged : γ} {n : ℕ}
    (hshort : n < size → outcome = (false, unchanged)) (hlong : size ≤ n → outcome.1 = true) :
    outcome = (false, unchanged) ↔ n < size := by
  constructor
  · intro hfail
    apply Nat.not_le.mp
    intro hn
    have htrue := hlong hn
    rw [hfail] at htrue
    cases htrue
  · exact hshort

section Implemented

variable {F : Format α β size} {serialise : α → List β → Bool × List β}
  {deserialise : α → List β → Bool × α}

theorem Format.Implemented.serialise_refuses (h : F.Implemented serialise deserialise) (a : α)
    (b : List β) : serialise a b = (false, b) ↔ b.length < size := by
  apply refuses_iff (h.serialise_short a b)
  intro hlong
  rw [h.serialise_long a b hlong]

theorem Format.Implemented.deserialise_refuses (h : F.Implemented serialise deserialise) (a : α)
    (b : List β) : deserialise a b = (false, a) ↔ b.length < size := by
  apply refuses_iff (h.deserialise_short a b)
  intro hlong
  rw [h.deserialise_long a b hlong]

theorem Format.Implemented.recovers (h : F.Implemented serialise deserialise) (a a₀ : α) {b : List β}
    (hlong : size ≤ b.length) : deserialise a₀ (serialise a b).2 = (true, a) := by
  have hwritten : size ≤ (F.encode a ++ b.drop size).length := by
    rw [List.length_append, F.encode_length]
    omega
  rw [h.serialise_long a b hlong, h.deserialise_long a₀ _ hwritten, F.decode_encode]

theorem Format.Implemented.reproduces (h : F.Implemented serialise deserialise) (a : α) {b b' : List β}
    (hlong : size ≤ b.length) (hlong' : size ≤ b'.length) :
    serialise (deserialise a b).2 b' = (true, b.take size ++ b'.drop size) := by
  rw [h.deserialise_long a b hlong, h.serialise_long _ b' hlong', F.encode_decode b hlong]

theorem Format.Implemented.inverse (h : F.Implemented serialise deserialise) (a : α)
    (v : List.Vector β size) :
    serialise a v.val = (true, (F.equiv a).val) ∧ deserialise a v.val = (true, F.equiv.symm v) := by
  have hlong : size ≤ v.val.length := Nat.le_of_eq v.2.symm
  constructor
  · rw [h.serialise_long a v.val hlong, List.drop_of_length_le (Nat.le_of_eq v.2), List.append_nil]
    rfl
  · exact h.deserialise_long a v.val hlong

theorem Format.Implemented.exact (h : F.Implemented serialise deserialise) :
    Exact size F.encode serialise deserialise where
  layout_length := F.encode_length
  serialise_refuses := h.serialise_refuses
  serialise_writes := h.serialise_long
  recovers a a₀ _ := h.recovers a a₀
  deserialise_refuses := h.deserialise_refuses
  deserialise_reads a b hlong := by rw [h.deserialise_long a b hlong]
  reproduces a _ _ := h.reproduces a
  inverse := ⟨F.equiv, h.inverse⟩

end Implemented

end ArqBenchmark.FixedFormat
