import ArqBenchmark.Traces
import Mathlib.Data.Finset.Card
import Mathlib.Data.Finset.Erase
import Mathlib.Data.Finset.Insert
import Mathlib.Logic.Function.Basic

namespace ArqBenchmark.Monitor

/-- What a function does while it holds the mutex, one access to what the mutex protects at a time. -/
inductive Body (σ ρ : Type)
  | waitWhile (condition : σ → Bool) (next : Body σ ρ)
  | access (write : σ → σ) (next : σ → Body σ ρ)
  | notifyOne (next : Body σ ρ)
  | done (result : ρ)
  | fault

/-- `outside` the functions; `locking` the mutex; `inside` with the mutex; `waiting` without it until
the condition variable has woken the thread and it has locked the mutex again. -/
inductive Point (ω σ ρ : Type)
  | outside
  | locking (op : ω)
  | inside (op : ω) (body : Body σ ρ)
  | waiting (op : ω) (body : Body σ ρ)
  | returning (result : ρ)

structure State (Θ ω σ ρ : Type) where
  content : σ
  mutex : Option Θ
  blocked : Finset Θ
  woken : Finset Θ
  point : Θ → Point ω σ ρ

inductive Action (Θ ω ρ : Type)
  | call (t : Θ) (op : ω)
  | lock (t : Θ)
  | run (t : Θ)
  | notify (t u : Θ)
  | wakeSpuriously (u : Θ)
  | leave (t : Θ) (result : ρ)

inductive Event (Θ ω ρ : Type)
  | called (t : Θ) (op : ω)
  | returned (t : Θ) (result : ρ)
deriving DecidableEq, Repr

variable {Θ ω σ ρ : Type}

def Action.visible : Action Θ ω ρ → Option (Event Θ ω ρ)
  | .call t op => some (.called t op)
  | .leave t result => some (.returned t result)
  | _ => none

def Point.isInside : Point ω σ ρ → Bool
  | .inside _ _ => true
  | _ => false

namespace Body

def run : Body σ ρ → σ → Option (ρ × σ)
  | .waitWhile condition next, s => if condition s then none else next.run s
  | .access write next, s => (next s).run (write s)
  | .notifyOne next, s => next.run s
  | .done result, s => some (result, s)
  | .fault, _ => none

def notifications : Body σ ρ → σ → ℕ
  | .waitWhile condition next, s => if condition s then 0 else next.notifications s
  | .access write next, s => (next s).notifications (write s)
  | .notifyOne next, s => next.notifications s + 1
  | .done _, _ => 0
  | .fault, _ => 0

end Body

namespace State

def new (content : σ) : State Θ ω σ ρ := ⟨content, none, ∅, ∅, fun _ => .outside⟩

variable [DecidableEq Θ]

def goTo (m : State Θ ω σ ρ) (t : Θ) (p : Point ω σ ρ) : State Θ ω σ ρ :=
  { m with point := Function.update m.point t p }

section GoTo

variable {m : State Θ ω σ ρ} {t u : Θ} {p : Point ω σ ρ}

@[simp] theorem goTo_point : (m.goTo t p).point t = p := by simp [goTo]

@[simp] theorem goTo_point_ne (h : u ≠ t) : (m.goTo t p).point u = m.point u := by simp [goTo, h]

@[simp] theorem goTo_content : (m.goTo t p).content = m.content := rfl
@[simp] theorem goTo_mutex : (m.goTo t p).mutex = m.mutex := rfl
@[simp] theorem goTo_blocked : (m.goTo t p).blocked = m.blocked := rfl
@[simp] theorem goTo_woken : (m.goTo t p).woken = m.woken := rfl

end GoTo

variable [DecidableEq ρ]

def step (code : ω → Body σ ρ) (m : State Θ ω σ ρ) : Action Θ ω ρ → Option (State Θ ω σ ρ)
  | .call t op =>
    match m.point t with
    | .outside => some (m.goTo t (.locking op))
    | _ => none
  | .lock t =>
    if m.mutex.isSome then none
    else
      match m.point t with
      | .locking op => some { m.goTo t (.inside op (code op)) with mutex := some t }
      | .waiting op body =>
        if t ∈ m.woken then
          some { m.goTo t (.inside op body) with mutex := some t, woken := m.woken.erase t }
        else none
      | _ => none
  | .run t =>
    match m.point t with
    | .inside op (.waitWhile condition next) =>
      if condition m.content then
        some { m.goTo t (.waiting op (.waitWhile condition next)) with
          mutex := none
          blocked := insert t m.blocked }
      else some (m.goTo t (.inside op next))
    | .inside op (.access write next) =>
      some { m.goTo t (.inside op (next m.content)) with content := write m.content }
    | .inside op (.notifyOne next) => if m.blocked = ∅ then some (m.goTo t (.inside op next)) else none
    | .inside _ (.done result) => some { m.goTo t (.returning result) with mutex := none }
    | _ => none
  | .notify t u =>
    match m.point t with
    | .inside op (.notifyOne next) =>
      if u ∈ m.blocked then
        some { m.goTo t (.inside op next) with blocked := m.blocked.erase u, woken := insert u m.woken }
      else none
    | _ => none
  | .wakeSpuriously u =>
    if u ∈ m.blocked then some { m with blocked := m.blocked.erase u, woken := insert u m.woken } else none
  | .leave t result =>
    match m.point t with
    | .returning r => if r = result then some (m.goTo t .outside) else none
    | _ => none

inductive Steps (code : ω → Body σ ρ) (m : State Θ ω σ ρ) : Action Θ ω ρ → State Θ ω σ ρ → Prop
  | calls {t : Θ} (op : ω) : m.point t = .outside → Steps code m (.call t op) (m.goTo t (.locking op))
  | locks {t : Θ} {op : ω} : m.mutex = none → m.point t = .locking op →
      Steps code m (.lock t) { m.goTo t (.inside op (code op)) with mutex := some t }
  | relocks {t : Θ} {op : ω} {body : Body σ ρ} : m.mutex = none → m.point t = .waiting op body → t ∈ m.woken →
      Steps code m (.lock t) { m.goTo t (.inside op body) with mutex := some t, woken := m.woken.erase t }
  | waits {t : Θ} {op : ω} {condition : σ → Bool} {next : Body σ ρ} :
      m.point t = .inside op (.waitWhile condition next) → condition m.content = true →
      Steps code m (.run t) { m.goTo t (.waiting op (.waitWhile condition next)) with
        mutex := none
        blocked := insert t m.blocked }
  | passes {t : Θ} {op : ω} {condition : σ → Bool} {next : Body σ ρ} :
      m.point t = .inside op (.waitWhile condition next) → condition m.content = false →
      Steps code m (.run t) (m.goTo t (.inside op next))
  | accesses {t : Θ} {op : ω} {write : σ → σ} {next : σ → Body σ ρ} : m.point t = .inside op (.access write next) →
      Steps code m (.run t) { m.goTo t (.inside op (next m.content)) with content := write m.content }
  | notifiesNone {t : Θ} {op : ω} {next : Body σ ρ} : m.point t = .inside op (.notifyOne next) → m.blocked = ∅ →
      Steps code m (.run t) (m.goTo t (.inside op next))
  | notifies {t u : Θ} {op : ω} {next : Body σ ρ} : m.point t = .inside op (.notifyOne next) → u ∈ m.blocked →
      Steps code m (.notify t u) { m.goTo t (.inside op next) with
        blocked := m.blocked.erase u
        woken := insert u m.woken }
  | finishes {t : Θ} {op : ω} {result : ρ} : m.point t = .inside op (.done result) →
      Steps code m (.run t) { m.goTo t (.returning result) with mutex := none }
  | wakes {u : Θ} : u ∈ m.blocked →
      Steps code m (.wakeSpuriously u) { m with blocked := m.blocked.erase u, woken := insert u m.woken }
  | returns {t : Θ} {result : ρ} : m.point t = .returning result →
      Steps code m (.leave t result) (m.goTo t .outside)

variable {code : ω → Body σ ρ} {m m' : State Θ ω σ ρ} {act : Action Θ ω ρ} {t : Θ}

theorem run_steps (h : m.step code (.run t) = some m') : m.Steps code (.run t) m' := by
  simp only [step] at h
  split at h
  next op condition next hpoint =>
    split at h
    next hc =>
      cases h
      exact .waits hpoint hc
    next hc =>
      cases h
      exact .passes hpoint (Bool.eq_false_iff.mpr hc)
  next op write next hpoint =>
    cases h
    exact .accesses hpoint
  next op next hpoint =>
    split at h
    next hnone =>
      cases h
      exact .notifiesNone hpoint hnone
    next => cases h
  next op result hpoint =>
    cases h
    exact .finishes hpoint
  next => cases h

theorem lock_steps (h : m.step code (.lock t) = some m') : m.Steps code (.lock t) m' := by
  simp only [step] at h
  split at h
  · cases h
  next hfree =>
    have hnone : m.mutex = none := by simpa using hfree
    split at h
    next op hpoint =>
      cases h
      exact .locks hnone hpoint
    next op body hpoint =>
      split at h
      next hwoken =>
        cases h
        exact .relocks hnone hpoint hwoken
      next => cases h
    next => cases h

theorem step_steps (h : m.step code act = some m') : m.Steps code act m' := by
  cases act with
  | call t op =>
    simp only [step] at h
    split at h
    next hpoint =>
      cases h
      exact .calls op hpoint
    next => cases h
  | lock t => exact lock_steps h
  | run t => exact run_steps h
  | notify t u =>
    simp only [step] at h
    split at h
    next op next hpoint =>
      split at h
      next hu =>
        cases h
        exact .notifies hpoint hu
      next => cases h
    next => cases h
  | wakeSpuriously u =>
    simp only [step] at h
    split at h
    next hu =>
      cases h
      exact .wakes hu
    next => cases h
  | leave t result =>
    simp only [step] at h
    split at h
    next r hpoint =>
      split at h
      next hr =>
        subst hr
        cases h
        exact .returns hpoint
      next => cases h
    next => cases h

end State

end ArqBenchmark.Monitor
