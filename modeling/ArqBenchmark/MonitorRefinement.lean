import ArqBenchmark.Monitor

namespace ArqBenchmark.Monitor

variable {Θ ω σ ρ : Type}

/-- No function faults, and one that waits does so before its first access. -/
def Safe (code : ω → Body σ ρ) : Prop :=
  ∀ op s, (code op).run s = none → ∃ condition next, code op = .waitWhile condition next ∧ condition s = true

namespace Atomic

inductive Point (ω ρ : Type)
  | outside
  | pending (op : ω)
  | finished (result : ρ)
deriving DecidableEq, Repr

structure State (Θ ω σ ρ : Type) where
  content : σ
  point : Θ → Point ω ρ

inductive Action (Θ ω ρ : Type)
  | call (t : Θ) (op : ω)
  | perform (t : Θ)
  | leave (t : Θ) (result : ρ)

def Action.visible : Action Θ ω ρ → Option (Event Θ ω ρ)
  | .call t op => some (.called t op)
  | .perform _ => none
  | .leave t result => some (.returned t result)

namespace State

def new (content : σ) : State Θ ω σ ρ := ⟨content, fun _ => .outside⟩

variable [DecidableEq Θ] [DecidableEq ρ]

def goTo (a : State Θ ω σ ρ) (t : Θ) (p : Point ω ρ) : State Θ ω σ ρ :=
  { a with point := Function.update a.point t p }

def step (apply : ω → σ → Option (ρ × σ)) (a : State Θ ω σ ρ) : Action Θ ω ρ → Option (State Θ ω σ ρ)
  | .call t op =>
    match a.point t with
    | .outside => some (a.goTo t (.pending op))
    | _ => none
  | .perform t =>
    match a.point t with
    | .pending op => (apply op a.content).map fun (result, content) =>
        { a.goTo t (.finished result) with content := content }
    | _ => none
  | .leave t result =>
    match a.point t with
    | .finished r => if r = result then some (a.goTo t .outside) else none
    | _ => none

end State

end Atomic

/-- A thread of the monitor beside the same thread of the atomic object. Once it holds the mutex its function
has already taken effect there, if it is not going to wait. -/
inductive Shown (code : ω → Body σ ρ) (content content' : σ) : Point ω σ ρ → Atomic.Point ω ρ → Prop
  | outside : Shown code content content' .outside .outside
  | locking (op : ω) : Shown code content content' (.locking op) (.pending op)
  | waiting (op : ω) : Shown code content content' (.waiting op (code op)) (.pending op)
  | stopping {op : ω} : (code op).run content = none → content' = content →
      Shown code content content' (.inside op (code op)) (.pending op)
  | running {op : ω} {body : Body σ ρ} {result : ρ} : body.run content = some (result, content') →
      Shown code content content' (.inside op body) (.finished result)
  | returning (result : ρ) : Shown code content content' (.returning result) (.finished result)

structure Refines (code : ω → Body σ ρ) (m : State Θ ω σ ρ) (a : Atomic.State Θ ω σ ρ) : Prop where
  mutex : ∀ t, m.mutex = some t ↔ (m.point t).isInside = true
  content : m.mutex = none → a.content = m.content
  shown : ∀ t, Shown code m.content a.content (m.point t) (a.point t)

section Refinement

variable {code : ω → Body σ ρ} {m m' : State Θ ω σ ρ} {a a' : Atomic.State Θ ω σ ρ} {act : Action Θ ω ρ} {t : Θ}
  {op : ω} {body : Body σ ρ}

theorem Shown.elsewhere {s s' c c' : σ} {p : Point ω σ ρ} {q : Atomic.Point ω ρ} (h : Shown code s s' p q)
    (hp : p.isInside = false) : Shown code c c' p q := by
  cases h with
  | outside => exact .outside
  | locking op => exact .locking op
  | waiting op => exact .waiting op
  | stopping => cases hp
  | running => cases hp
  | returning result => exact .returning result

theorem new_refines (code : ω → Body σ ρ) (content : σ) :
    Refines code (State.new (Θ := Θ) content) (Atomic.State.new content) where
  mutex t := by simp [State.new, Point.isInside]
  content _ := rfl
  shown _ := .outside

theorem Refines.alone (h : Refines code m a) (hm : m.mutex = none ∨ m.mutex = some t) :
    ∀ u, u ≠ t → (m.point u).isInside = false := by
  intro u hu
  apply Bool.eq_false_iff.mpr
  intro hin
  have hholder := (h.mutex u).mpr hin
  rcases hm with hm | hm
  · simp [hm] at hholder
  · exact hu (Option.some.inj (hholder.symm.trans hm))

theorem Refines.holds (h : Refines code m a) (hp : m.point t = .inside op body) : m.mutex = some t := by
  rw [h.mutex t, hp]
  rfl

theorem Refines.moves (h : Refines code m a) (hm : m.mutex = none ∨ m.mutex = some t)
    (hmutex : m'.mutex = if (m'.point t).isInside then some t else none)
    (hothers : ∀ u, u ≠ t → m'.point u = m.point u ∧ a'.point u = a.point u)
    (hcontent : m'.mutex = none → a'.content = m'.content)
    (hshown : Shown code m'.content a'.content (m'.point t) (a'.point t)) : Refines code m' a' where
  mutex u := by
    by_cases hu : u = t
    · subst hu
      rw [hmutex]
      split <;> simp_all
    · rw [(hothers u hu).1, h.alone hm u hu, hmutex]
      split <;> simp [Ne.symm hu]
  content := hcontent
  shown u := by
    by_cases hu : u = t
    · rwa [hu]
    · rw [(hothers u hu).1, (hothers u hu).2]
      exact (h.shown u).elsewhere (h.alone hm u hu)

theorem Refines.passes_by (h : Refines code m a) (hp : (m.point t).isInside = false)
    (hp' : (m'.point t).isInside = false) (hmutex : m'.mutex = m.mutex)
    (hothers : ∀ u, u ≠ t → m'.point u = m.point u ∧ a'.point u = a.point u)
    (hcontent : m'.content = m.content ∧ a'.content = a.content)
    (hshown : Shown code m.content a.content (m'.point t) (a'.point t)) : Refines code m' a' where
  mutex u := by
    by_cases hu : u = t
    · have hnot := (h.mutex u).not
      subst hu
      simp_all
    · rw [hmutex, (hothers u hu).1, h.mutex u]
  content hnone := by
    rw [hcontent.1, hcontent.2]
    exact h.content (hmutex ▸ hnone)
  shown u := by
    rw [hcontent.1, hcontent.2]
    by_cases hu : u = t
    · rwa [hu]
    · rw [(hothers u hu).1, (hothers u hu).2]
      exact h.shown u

theorem Refines.of_outside (h : Refines code m a) (hp : m.point t = .outside) : a.point t = .outside := by
  have hshown := h.shown t
  generalize a.point t = q at hshown ⊢
  rw [hp] at hshown
  cases hshown
  rfl

theorem Refines.of_locking (h : Refines code m a) (hp : m.point t = .locking op) : a.point t = .pending op := by
  have hshown := h.shown t
  generalize a.point t = q at hshown ⊢
  rw [hp] at hshown
  cases hshown
  rfl

theorem Refines.of_waiting (h : Refines code m a) (hp : m.point t = .waiting op body) :
    body = code op ∧ a.point t = .pending op := by
  have hshown := h.shown t
  generalize a.point t = q at hshown ⊢
  rw [hp] at hshown
  cases hshown
  exact ⟨rfl, rfl⟩

theorem Refines.of_returning (h : Refines code m a) {result : ρ} (hp : m.point t = .returning result) :
    a.point t = .finished result := by
  have hshown := h.shown t
  generalize a.point t = q at hshown ⊢
  rw [hp] at hshown
  cases hshown
  rfl

theorem Refines.of_inside (h : Refines code m a) (hp : m.point t = .inside op body) :
    (body = code op ∧ body.run m.content = none ∧ a.content = m.content ∧ a.point t = .pending op) ∨
      ∃ result, body.run m.content = some (result, a.content) ∧ a.point t = .finished result := by
  have hshown := h.shown t
  generalize a.point t = q at hshown ⊢
  rw [hp] at hshown
  cases hshown with
  | stopping hnone heq => exact .inl ⟨rfl, hnone, heq, rfl⟩
  | running hrun => exact .inr ⟨_, hrun, rfl⟩

theorem Refines.runs (hsafe : Safe code) (h : Refines code m a) (hp : m.point t = .inside op body)
    (hbody : ∀ condition next, body = .waitWhile condition next → condition m.content = false) :
    ∃ result, body.run m.content = some (result, a.content) ∧ a.point t = .finished result := by
  rcases h.of_inside hp with ⟨rfl, hnone, -, -⟩ | hrun
  · obtain ⟨condition, next, hcode, hc⟩ := hsafe op m.content hnone
    rw [hbody condition next hcode] at hc
    cases hc
  · exact hrun

section Steps

variable [DecidableEq Θ]

theorem Refines.goes_on (h : Refines code m a) {next : Body σ ρ} {content : σ} {blocked woken : Finset Θ}
    (hp : m.point t = .inside op body) (hnext : next.run content = body.run m.content)
    (hruns : ∃ result, body.run m.content = some (result, a.content) ∧ a.point t = .finished result) :
    Refines code { m.goTo t (.inside op next) with content := content, blocked := blocked, woken := woken } a := by
  have hholds := h.holds hp
  obtain ⟨result, hrun, hq⟩ := hruns
  apply h.moves (t := t) (.inr hholds)
  · simp [State.goTo, Point.isInside, hholds]
  · intro u hu
    simp [State.goTo, hu]
  · simp [hholds]
  · rw [hq]
    simpa [State.goTo] using Shown.running (hnext.trans hrun)

theorem Refines.waits (h : Refines code m a) {condition : σ → Bool} {next : Body σ ρ} {blocked : Finset Θ}
    (hp : m.point t = .inside op (.waitWhile condition next)) (hc : condition m.content = true) :
    Refines code { m.goTo t (.waiting op (.waitWhile condition next)) with mutex := none, blocked := blocked } a := by
  rcases h.of_inside hp with ⟨hcode, -, heq, hq⟩ | ⟨result, hrun, -⟩
  · apply h.moves (t := t) (.inr (h.holds hp))
    · simp [State.goTo, Point.isInside]
    · intro u hu
      simp [State.goTo, hu]
    · intro _
      exact heq
    · rw [hq, hcode]
      simpa [State.goTo] using Shown.waiting op
  · simp [Body.run, hc] at hrun

theorem Refines.finishes (hsafe : Safe code) (h : Refines code m a) {result : ρ}
    (hp : m.point t = .inside op (.done result)) :
    Refines code { m.goTo t (.returning result) with mutex := none } a := by
  obtain ⟨r, hrun, hq⟩ := h.runs hsafe hp (fun _ _ heq => by cases heq)
  obtain ⟨rfl, heq⟩ := Prod.mk.inj (Option.some.inj hrun)
  apply h.moves (t := t) (.inr (h.holds hp))
  · simp [State.goTo, Point.isInside]
  · intro u hu
    simp [State.goTo, hu]
  · intro _
    exact heq.symm
  · rw [hq]
    simpa [State.goTo] using Shown.returning result

variable [DecidableEq ρ]

abbrev AtomicStep (code : ω → Body σ ρ) (a : Atomic.State Θ ω σ ρ) (x : Atomic.Action Θ ω ρ)
    (a' : Atomic.State Θ ω σ ρ) : Prop :=
  a.step (fun op => (code op).run) x = some a'

variable (code) in
theorem exists_performed (hp : a.point t = .pending op) :
    ∃ a', Runs.Shows (AtomicStep code) Atomic.Action.visible a [] a' ∧
      (∀ u, u ≠ t → a'.point u = a.point u) ∧ Shown code a.content a'.content (.inside op (code op)) (a'.point t) := by
  cases hrun : (code op).run a.content with
  | none =>
    refine ⟨a, .refl, fun _ _ => rfl, ?_⟩
    rw [hp]
    exact .stopping hrun rfl
  | some outcome =>
    obtain ⟨result, content⟩ := outcome
    refine ⟨{ a.goTo t (.finished result) with content := content }, ?_, ?_, ?_⟩
    · refine Runs.Shows.silent (a := .perform t) ?_ rfl
      simp [AtomicStep, Atomic.State.step, hp, hrun]
    · intro u hu
      simp [Atomic.State.goTo, hu]
    · simpa [Atomic.State.goTo] using Shown.running hrun

theorem Refines.enters (h : Refines code m a) (hfree : m.mutex = none) (hp : a.point t = .pending op)
    {woken : Finset Θ} : ∃ a', Runs.Shows (AtomicStep code) Atomic.Action.visible a [] a' ∧
      Refines code { m.goTo t (.inside op (code op)) with mutex := some t, woken := woken } a' := by
  obtain ⟨a', hshows, hothers, hshown⟩ := exists_performed code hp
  refine ⟨a', hshows, ?_⟩
  apply h.moves (t := t) (.inl hfree)
  · simp [State.goTo, Point.isInside]
  · intro u hu
    simp [State.goTo, hu, hothers u hu]
  · intro hnone
    cases hnone
  · rw [h.content hfree] at hshown
    simpa [State.goTo] using hshown

theorem Refines.calls (h : Refines code m a) (op : ω) (hp : m.point t = .outside) :
    ∃ a', Runs.Shows (AtomicStep code) Atomic.Action.visible a [.called t op] a' ∧
      Refines code (m.goTo t (.locking op)) a' := by
  have hq := h.of_outside hp
  refine ⟨a.goTo t (.pending op), ?_, ?_⟩
  · refine Runs.Shows.single (a := Atomic.Action.call t op) ?_
    simp [AtomicStep, Atomic.State.step, hq]
  · apply h.passes_by (t := t) (by simp [hp, Point.isInside])
    · simp [Point.isInside]
    · rfl
    · intro u hu
      simp [Atomic.State.goTo, hu]
    · exact ⟨rfl, rfl⟩
    · simpa [Atomic.State.goTo] using Shown.locking op

theorem Refines.returns (h : Refines code m a) {result : ρ} (hp : m.point t = .returning result) :
    ∃ a', Runs.Shows (AtomicStep code) Atomic.Action.visible a [.returned t result] a' ∧
      Refines code (m.goTo t .outside) a' := by
  have hq := h.of_returning hp
  refine ⟨a.goTo t .outside, ?_, ?_⟩
  · refine Runs.Shows.single (a := Atomic.Action.leave t result) ?_
    simp [AtomicStep, Atomic.State.step, hq]
  · apply h.passes_by (t := t) (by simp [hp, Point.isInside])
    · simp [Point.isInside]
    · rfl
    · intro u hu
      simp [Atomic.State.goTo, hu]
    · exact ⟨rfl, rfl⟩
    · simpa [Atomic.State.goTo] using Shown.outside

theorem Refines.step (hsafe : Safe code) (h : Refines code m a) (hs : m.Steps code act m') :
    ∃ a', Runs.Shows (AtomicStep code) Atomic.Action.visible a act.visible.toList a' ∧ Refines code m' a' := by
  cases hs with
  | calls op hp => exact h.calls op hp
  | locks hfree hp => exact h.enters hfree (h.of_locking hp)
  | relocks hfree hp _ =>
    obtain ⟨rfl, hq⟩ := h.of_waiting hp
    exact h.enters hfree hq
  | waits hp hc => exact ⟨a, .refl, h.waits hp hc⟩
  | passes hp hc =>
    have hruns := h.runs hsafe hp (fun _ _ heq => by cases heq; exact hc)
    exact ⟨a, .refl, h.goes_on hp (by simp [Body.run, hc]) hruns⟩
  | accesses hp => exact ⟨a, .refl, h.goes_on hp rfl (h.runs hsafe hp (fun _ _ heq => by cases heq))⟩
  | notifiesNone hp _ => exact ⟨a, .refl, h.goes_on hp rfl (h.runs hsafe hp (fun _ _ heq => by cases heq))⟩
  | notifies hp _ => exact ⟨a, .refl, h.goes_on hp rfl (h.runs hsafe hp (fun _ _ heq => by cases heq))⟩
  | finishes hp => exact ⟨a, .refl, h.finishes hsafe hp⟩
  | wakes _ => exact ⟨a, .refl, h.mutex, h.content, h.shown⟩
  | returns hp => exact h.returns hp

/-- Whatever can be seen of the monitor can be seen of an object whose functions take effect at once. -/
theorem refines_atomic (hsafe : Safe code) {content : σ} {trace : List (Event Θ ω ρ)}
    (h : Runs.Shows (fun m act m' => State.step code m act = some m') Action.visible (State.new content) trace m) :
    ∃ a, Runs.Shows (AtomicStep code) Atomic.Action.visible (Atomic.State.new content) trace a ∧ Refines code m a :=
  h.simulated (fun _ _ _ _ hR hs => hR.step hsafe (State.step_steps hs)) (new_refines code content)

end Steps

end Refinement

end ArqBenchmark.Monitor
