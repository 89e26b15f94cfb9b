import Mathlib.Data.Nat.Find
import Mathlib.Data.Nat.ModEq
import Mathlib.Tactic.Common

namespace ArqBenchmark.Loops

variable {σ β ε : Type}

@[simp] theorem ok_bind {α γ : Type} (a : α) (f : α → Except ε γ) : (Except.ok a >>= f) = f a := rfl

@[simp] theorem error_bind {α γ : Type} (e : ε) (f : α → Except ε γ) :
    ((Except.error e : Except ε α) >>= f) = Except.error e := rfl

@[simp] theorem map_ok {α γ : Type} (f : α → γ) (a : α) :
    (f <$> (Except.ok a : Except ε α)) = .ok (f a) := rfl

@[simp] theorem map_error {α γ : Type} (f : α → γ) (e : ε) :
    (f <$> (Except.error e : Except ε α)) = .error e := rfl

theorem bind_eq_ok {α γ : Type} {x : Except ε α} {f : α → Except ε γ} {c : γ} :
    (x >>= f) = .ok c ↔ ∃ a, x = .ok a ∧ f a = .ok c := by
  cases x <;> simp

/-- `do { body } while ((idx = next(idx)) != start)`; the body leaves the loop early by returning
`inr`. A walk that is not back at `start` when the fuel is spent never ends. -/
def doWhile (start : ℕ) (next : ℕ → Except ε ℕ) (diverges : ε) (body : ℕ → σ → Except ε (σ ⊕ β)) :
    ℕ → ℕ → σ → Except ε (σ ⊕ β)
  | 0, _, _ => .error diverges
  | fuel + 1, idx, s => do
    match ← body idx s with
    | .inr b => pure (.inr b)
    | .inl s' =>
      let idx' ← next idx
      if idx' = start then pure (.inl s') else doWhile start next diverges body fuel idx' s'

def forRange (body : ℕ → σ → Except ε σ) : ℕ → σ → Except ε σ
  | 0, s => .ok s
  | n + 1, s => forRange body n s >>= body n

/-- `while (test(s = next(s)));`, left with the first `s` that fails the test. There is no result when `fuel`
tests are not enough. -/
def advanceWhile (next : σ → σ) (test : σ → Bool) : ℕ → σ → Option σ
  | 0, _ => none
  | fuel + 1, s => if test (next s) then advanceWhile next test fuel (next s) else some (next s)

theorem offset_inj {size start i j : ℕ} (hi : i < size) (hj : j < size)
    (h : (start + i) % size = (start + j) % size) : i = j := by
  have h' : i ≡ j [MOD size] := Nat.ModEq.add_left_cancel' start h
  simpa only [Nat.ModEq, Nat.mod_eq_of_lt hi, Nat.mod_eq_of_lt hj] using h'

theorem offset_ne_start {size start i : ℕ} (hs : start < size) (h0 : 0 < i) (hi : i < size) :
    (start + i) % size ≠ start := by
  intro h
  have h' : (start + i) % size = (start + 0) % size := by rw [h, Nat.add_zero, Nat.mod_eq_of_lt hs]
  have := offset_inj hi (Nat.lt_trans h0 hi) h'
  omega

section Rules

variable {size start : ℕ} {next : ℕ → Except ε ℕ} {I : ℕ → σ → Prop} {Q : σ ⊕ β → Prop}

/-- One turn of the ring visits every offset at most once and ends: `I i` holds before the slot at
offset `i` is visited, and `Q` of whatever the loop ends with. -/
theorem doWhile_rule (diverges : ε) (body : ℕ → σ → Except ε (σ ⊕ β)) (hs : start < size)
    (hnext : ∀ i, next i = .ok ((i + 1) % size))
    (hbody : ∀ i < size, ∀ s, I i s →
      (∃ s', body ((start + i) % size) s = .ok (.inl s') ∧ I (i + 1) s') ∨
        ∃ b, body ((start + i) % size) s = .ok (.inr b) ∧ Q (.inr b))
    (hend : ∀ s, I size s → Q (.inl s)) {s : σ} (h0 : I 0 s) :
    ∃ r, doWhile start next diverges body (size + 1) start s = .ok r ∧ Q r := by
  -- The offset grows while the fuel shrinks, so the induction is on the fuel that is left.
  have walk : ∀ fuel i s, i < size → size ≤ fuel + i → I i s →
      ∃ r, doWhile start next diverges body (fuel + 1) ((start + i) % size) s = .ok r ∧ Q r := by
    intro fuel
    induction fuel with
    | zero => intro i s hi hf; omega
    | succ fuel ih =>
      intro i s hi hf hI
      rcases hbody i hi s hI with ⟨s', hb, hI'⟩ | ⟨b, hb, hQ⟩
      · have hstep : next ((start + i) % size) = .ok ((start + (i + 1)) % size) := by
          rw [hnext, Nat.mod_add_mod, Nat.add_assoc]
        by_cases hlast : i + 1 = size
        · have hback : (start + (i + 1)) % size = start := by
            rw [hlast, Nat.add_mod_right, Nat.mod_eq_of_lt hs]
          refine ⟨.inl s', ?_, hend s' (hlast ▸ hI')⟩
          rw [doWhile, hb, ok_bind]
          simp only [hstep, hback, ok_bind, ↓reduceIte]
          rfl
        · have hgo : (start + (i + 1)) % size ≠ start := offset_ne_start hs (by omega) (by omega)
          obtain ⟨r, hr, hQ⟩ := ih (i + 1) s' (by omega) (by omega) hI'
          refine ⟨r, ?_, hQ⟩
          rw [doWhile, hb, ok_bind]
          simpa only [hstep, ok_bind, hgo, ↓reduceIte] using hr
      · exact ⟨.inr b, by rw [doWhile, hb, ok_bind]; rfl, hQ⟩
  have h := walk size 0 s (by omega) (by omega) h0
  rwa [show (start + 0) % size = start from Nat.mod_eq_of_lt hs] at h

theorem doWhile_keeps {diverges : ε} {body : ℕ → σ → Except ε (σ ⊕ β)} {K : σ → Prop} {L : β → Prop}
    (hstay : ∀ idx s s', K s → body idx s = .ok (.inl s') → K s')
    (hleave : ∀ idx s b, K s → body idx s = .ok (.inr b) → L b) {fuel idx : ℕ} {s : σ} {r : σ ⊕ β}
    (h : doWhile start next diverges body fuel idx s = .ok r) (h0 : K s) : Sum.elim K L r := by
  induction fuel generalizing idx s with
  | zero => cases h
  | succ fuel ih =>
    rw [doWhile] at h
    obtain ⟨r', hbody, hrest⟩ := bind_eq_ok.mp h
    cases r' with
    | inr b =>
      cases hrest
      exact hleave idx s b h0 hbody
    | inl s' =>
      have hs' := hstay idx s s' h0 hbody
      obtain ⟨idx', -, hgo⟩ := bind_eq_ok.mp hrest
      split at hgo
      · cases hgo
        exact hs'
      · exact ih hgo hs'

theorem forRange_keeps {body : ℕ → σ → Except ε σ} {K : σ → Prop}
    (hstay : ∀ i s s', K s → body i s = .ok s' → K s') {n : ℕ} {s s' : σ}
    (h : forRange body n s = .ok s') (h0 : K s) : K s' := by
  induction n generalizing s' with
  | zero =>
    cases h
    exact h0
  | succ n ih =>
    obtain ⟨s₁, h₁, h₂⟩ := bind_eq_ok.mp h
    exact hstay n s₁ s' (ih h₁) h₂

theorem forRange_rule {body : ℕ → σ → Except ε σ} {n : ℕ}
    (hbody : ∀ i < n, ∀ s, I i s → ∃ s', body i s = .ok s' ∧ I (i + 1) s') {s : σ} (h0 : I 0 s) :
    ∃ s', forRange body n s = .ok s' ∧ I n s' := by
  induction n with
  | zero => exact ⟨s, rfl, h0⟩
  | succ n ih =>
    obtain ⟨s₁, h₁, hI₁⟩ := ih (fun i hi => hbody i (by omega))
    obtain ⟨s₂, h₂, hI₂⟩ := hbody n (by omega) s₁ hI₁
    exact ⟨s₂, by rw [forRange, h₁, ok_bind, h₂], hI₂⟩

theorem advanceWhile_eq {step : σ → σ} {test : σ → Bool} {n : ℕ} {s : σ}
    (hstop : test (step^[n + 1] s) = false) (hgo : ∀ i < n, test (step^[i + 1] s) = true)
    {fuel : ℕ} (hfuel : n < fuel) :
    advanceWhile step test fuel s = some (step^[n + 1] s) := by
  induction n generalizing fuel s with
  | zero =>
    obtain ⟨fuel, rfl⟩ := Nat.exists_eq_add_one_of_ne_zero (Nat.ne_of_gt hfuel)
    have hlast : test (step s) = false := hstop
    rw [advanceWhile, hlast]
    rfl
  | succ n ih =>
    obtain ⟨fuel, rfl⟩ := Nat.exists_eq_add_one_of_ne_zero (Nat.ne_of_gt (Nat.zero_lt_of_lt hfuel))
    have hfirst : test (step s) = true := hgo 0 n.succ_pos
    rw [advanceWhile, hfirst, if_pos rfl]
    exact ih hstop (fun i hi => hgo (i + 1) (Nat.succ_lt_succ hi)) (Nat.lt_of_succ_lt_succ hfuel)

theorem advanceWhile_rule {step : σ → σ} {test : σ → Bool} {s : σ}
    (h : ∃ n < size, test (step^[n + 1] s) = false) :
    ∃ n < size, advanceWhile step test size s = some (step^[n + 1] s) ∧ test (step^[n + 1] s) = false ∧
      ∀ i < n, test (step^[i + 1] s) = true := by
  classical
  have hfree : ∃ n, test (step^[n + 1] s) = false := h.imp fun _ hn => hn.2
  have hstop := Nat.find_spec hfree
  have hgo : ∀ i < Nat.find hfree, test (step^[i + 1] s) = true := fun i hi =>
    Bool.eq_true_of_not_eq_false (Nat.find_min hfree hi)
  have hlt : Nat.find hfree < size := by
    obtain ⟨n, hn, hfail⟩ := h
    exact Nat.lt_of_le_of_lt (Nat.find_min' hfree hfail) hn
  exact ⟨Nat.find hfree, hlt, advanceWhile_eq hstop hgo hlt, hstop, hgo⟩

end Rules

end ArqBenchmark.Loops
