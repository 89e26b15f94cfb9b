import Mathlib.Order.WellFounded
import Mathlib.Tactic.Common

namespace ArqBenchmark.Runs

variable {σ τ α ρ : Type}

section Reachability

variable {step : σ → α → σ → Prop} {allowed : σ → α → Prop} {s t u : σ}

/-- The states of the runs from `s` all of whose steps meet `allowed`, a condition on the state
before the step and on the step taken. -/
inductive Reaches (step : σ → α → σ → Prop) (allowed : σ → α → Prop) (s : σ) : σ → Prop
  | refl : Reaches step allowed s s
  | tail {t u : σ} {a : α} : Reaches step allowed s t → allowed t a → step t a u →
      Reaches step allowed s u

def Reachable (step : σ → α → σ → Prop) (s t : σ) : Prop := Reaches step (fun _ _ => True) s t

theorem Reaches.mono {allowed' : σ → α → Prop} (h : Reaches step allowed s t)
    (hw : ∀ s a, allowed s a → allowed' s a) : Reaches step allowed' s t := by
  induction h with
  | refl => exact .refl
  | tail _ ha hs ih => exact ih.tail (hw _ _ ha) hs

theorem Reaches.reachable (h : Reaches step allowed s t) : Reachable step s t :=
  h.mono (fun _ _ _ => trivial)

theorem Reaches.trans (h : Reaches step allowed s t) (h' : Reaches step allowed t u) :
    Reaches step allowed s u := by
  induction h' with
  | refl => exact h
  | tail _ ha hs ih => exact ih.tail ha hs

theorem Reachable.next {a : α} (h : Reachable step s t) (hs : step t a u) : Reachable step s u :=
  Reaches.tail h trivial hs

theorem Reaches.invariant {P : σ → Prop} (h : Reaches step allowed s t) (h0 : P s)
    (hstep : ∀ t a u, P t → allowed t a → step t a u → P u) : P t := by
  induction h with
  | refl => exact h0
  | tail _ ha hs ih => exact hstep _ _ _ ih ha hs

theorem Reaches.invariant_of {P K : σ → Prop} (h : Reaches step allowed s t) (h0 : P s)
    (hK : ∀ t, Reaches step allowed s t → K t)
    (hstep : ∀ t a u, K t → K u → P t → allowed t a → step t a u → P u) : P t := by
  induction h with
  | refl => exact h0
  | tail hr ha hs ih => exact hstep _ _ _ (hK _ hr) (hK _ (hr.tail ha hs)) ih ha hs

end Reachability

section Progress

variable {step : σ → α → σ → Prop} {allowed : σ → α → Prop} {P Q : σ → Prop} {s t : σ}

def CanReach (step : σ → α → σ → Prop) (allowed : σ → α → Prop) (s : σ) (Q : σ → Prop) : Prop :=
  ∃ t, Reaches step allowed s t ∧ Q t

theorem CanReach.here (h : Q s) : CanReach step allowed s Q := ⟨s, .refl, h⟩

theorem CanReach.bind (h : CanReach step allowed s P) (hnext : ∀ t, P t → CanReach step allowed t Q) :
    CanReach step allowed s Q := by
  obtain ⟨t, ht, hP⟩ := h
  obtain ⟨u, hu, hQ⟩ := hnext t hP
  exact ⟨u, ht.trans hu, hQ⟩

theorem CanReach.mono (h : CanReach step allowed s P) (hPQ : ∀ t, P t → Q t) : CanReach step allowed s Q :=
  h.bind (fun t ht => .here (hPQ t ht))

theorem CanReach.of_step {a : α} (ha : allowed s a) (hs : step s a t) (h : CanReach step allowed t Q) :
    CanReach step allowed s Q := by
  obtain ⟨u, hu, hQ⟩ := h
  exact ⟨u, (Reaches.tail .refl ha hs).trans hu, hQ⟩

/-- It is enough to get to `Q` or closer to it from every state of `P`. -/
theorem CanReach.of_measure {β : Type} [Preorder β] [WellFoundedLT β] {m : σ → β}
    (h : ∀ s, P s → CanReach step allowed s fun t => Q t ∨ P t ∧ m t < m s) (hs : P s) :
    CanReach step allowed s Q := by
  induction hm : m s using WellFoundedLT.induction generalizing s with
  | ind n ih =>
    subst hm
    refine (h s hs).bind (fun t ht => ?_)
    rcases ht with hQ | ⟨hP, hlt⟩
    · exact .here hQ
    · exact ih _ hlt hP rfl

end Progress

section Calls

variable {next : σ → α → Option σ} {P Q R : σ → α → Prop}

def AlongRun (next : σ → α → Option σ) (P : σ → α → Prop) : σ → List α → Prop
  | _, [] => True
  | s, a :: calls => P s a ∧ ∀ t ∈ next s a, AlongRun next P t calls

instance decidableAlongRun [∀ s a, Decidable (P s a)] :
    ∀ (s : σ) (calls : List α), Decidable (AlongRun next P s calls)
  | _, [] => isTrue trivial
  | s, a :: calls =>
    haveI := fun t => decidableAlongRun t calls
    inferInstanceAs (Decidable (P s a ∧ ∀ t ∈ next s a, AlongRun next P t calls))

/-- Two call conditions agree along a run when they agree in every state of an invariant that `Q`
preserves; `R` is what the run is known to satisfy. -/
theorem alongRun_congr {I : σ → Prop} (hiff : ∀ s a, I s → R s a → (P s a ↔ Q s a))
    (hinv : ∀ s a t, I s → R s a → Q s a → next s a = some t → I t) {s : σ} {calls : List α}
    (h0 : I s) (hR : AlongRun next R s calls) :
    AlongRun next P s calls ↔ AlongRun next Q s calls := by
  induction calls generalizing s with
  | nil => exact Iff.rfl
  | cons a calls ih =>
    obtain ⟨hr, hrest⟩ := hR
    constructor
    · rintro ⟨hp, ht⟩
      have hq := (hiff s a h0 hr).mp hp
      exact ⟨hq, fun t h => (ih (hinv s a t h0 hr hq h) (hrest t h)).mp (ht t h)⟩
    · rintro ⟨hq, ht⟩
      exact ⟨(hiff s a h0 hr).mpr hq,
        fun t h => (ih (hinv s a t h0 hr hq h) (hrest t h)).mpr (ht t h)⟩

theorem alongRun_of_invariant {I : σ → Prop} (hP : ∀ s a, I s → P s a)
    (hinv : ∀ s a t, I s → next s a = some t → I t) {s : σ} (h0 : I s) (calls : List α) :
    AlongRun next P s calls := by
  induction calls generalizing s with
  | nil => trivial
  | cons a calls ih => exact ⟨hP s a h0, fun t ht => ih (hinv s a t h0 ht)⟩

theorem alongRun_of_calls {calls : List α} (hP : ∀ a ∈ calls, ∀ s, P s a)
    (s : σ) : AlongRun next P s calls := by
  induction calls generalizing s with
  | nil => trivial
  | cons a calls ih =>
    exact ⟨hP a List.mem_cons_self s, fun t _ => ih (fun b hb => hP b (List.mem_cons_of_mem a hb)) t⟩

theorem alongRun_true (s : σ) (calls : List α) : AlongRun next (fun _ _ => True) s calls :=
  alongRun_of_calls (fun _ _ _ => trivial) s

def replay (next : σ → α → Option σ) : σ → List α → Option σ
  | s, [] => some s
  | s, a :: calls => (next s a).bind fun t => replay next t calls

theorem replay_append (s : σ) (calls more : List α) :
    replay next s (calls ++ more) = (replay next s calls).bind fun t => replay next t more := by
  induction calls generalizing s with
  | nil => rfl
  | cons a calls ih =>
    rw [List.cons_append, replay, replay, Option.bind_assoc]
    exact congrArg _ (funext ih)

theorem replay_concat {s t u : σ} {calls : List α} {a : α} (h : replay next s calls = some t)
    (ha : next t a = some u) : replay next s (calls ++ [a]) = some u := by
  rw [replay_append, h, Option.bind_some, replay, ha, Option.bind_some, replay]

theorem replay_of_invariant {I : σ → Prop} (hstep : ∀ s a, I s → ∃ t, next s a = some t ∧ I t) {s : σ}
    (h0 : I s) (calls : List α) : ∃ t, replay next s calls = some t ∧ I t := by
  induction calls generalizing s with
  | nil => exact ⟨s, rfl, h0⟩
  | cons a calls ih =>
    obtain ⟨u, hu, hI⟩ := hstep s a h0
    obtain ⟨t, ht, hend⟩ := ih hI
    exact ⟨t, by rw [replay, hu, Option.bind_some, ht], hend⟩

theorem reaches_of_replay {s t : σ} {calls : List α} (hP : AlongRun next P s calls)
    (h : replay next s calls = some t) : Reaches (fun s a s' => next s a = some s') P s t := by
  induction calls generalizing s with
  | nil =>
    obtain rfl := Option.some.inj h
    exact .refl
  | cons a calls ih =>
    obtain ⟨u, hu, hrest⟩ := Option.bind_eq_some_iff.mp h
    have hfirst : Reaches (fun s a s' => next s a = some s') P s u := .tail .refl hP.1 hu
    exact hfirst.trans (ih (hP.2 u hu) hrest)

theorem exists_reaches {s : σ} {calls : List α} {test : σ → Bool} (hP : AlongRun next P s calls)
    (h : (replay next s calls).any test = true) :
    ∃ t, Reaches (fun s a s' => next s a = some s') P s t ∧ test t = true := by
  obtain ⟨t, ht, htest⟩ := (Option.any_eq_true _ _).mp h
  exact ⟨t, reaches_of_replay hP ht, htest⟩

theorem exists_reachable {s : σ} {calls : List α} {test : σ → Bool}
    (h : (replay next s calls).any test = true) :
    ∃ t, Reachable (fun s a s' => next s a = some s') s t ∧ test t = true :=
  exists_reaches (alongRun_true s calls) h

def observe (call : σ → α → ρ × σ) : σ → List α → List ρ
  | _, [] => []
  | s, a :: calls => (call s a).1 :: observe call (call s a).2 calls

theorem observe_map {ρ' : Type} (f : ρ → ρ') (call : σ → α → ρ × σ) (s : σ) (calls : List α) :
    (observe call s calls).map f = observe (fun s a => (f (call s a).1, (call s a).2)) s calls := by
  induction calls generalizing s with
  | nil => rfl
  | cons a calls ih => rw [observe, observe, List.map_cons, ih]

theorem observe_eq_of_simulation {call : σ → α → ρ × σ} {call' : τ → α → ρ × τ}
    {S : σ → τ → Prop} {admissible : τ → α → Prop}
    (hstep : ∀ s t a, S s t → admissible t a →
      (call s a).1 = (call' t a).1 ∧ S (call s a).2 (call' t a).2)
    {s : σ} {t : τ} {calls : List α} (h0 : S s t)
    (hc : AlongRun (fun t a => some (call' t a).2) admissible t calls) :
    observe call s calls = observe call' t calls := by
  induction calls generalizing s t with
  | nil => rfl
  | cons a calls ih =>
    obtain ⟨ha, hrest⟩ := hc
    obtain ⟨hr, hrel⟩ := hstep s t a h0 ha
    rw [observe, observe, hr, ih hrel (hrest _ rfl)]

end Calls

end ArqBenchmark.Runs
