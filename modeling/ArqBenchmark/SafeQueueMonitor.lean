import ArqBenchmark.MonitorProgress
import ArqBenchmark.PacketBuffers

namespace ArqBenchmark.SafeQueue

open Monitor (Body Safe Notifies)

variable {Θ α : Type}

inductive Call (α : Type)
  | push (value : α)
  | popWait
  | tryPop
  | empty
  | size
deriving DecidableEq, Repr

inductive Result (α : Type)
  | pushed
  | value (val : α)
  | popped (val : Option α)
  | empty (isEmpty : Bool)
  | size (length : ℕ)
deriving DecidableEq, Repr

/-- `queue_.front()`, which is undefined for an empty queue. -/
def front (next : α → Body (SafeQueue α) (Result α)) : Body (SafeQueue α) (Result α) :=
  .access id fun
    | [] => .fault
    | val :: _ => next val

def pop (next : Body (SafeQueue α) (Result α)) : Body (SafeQueue α) (Result α) :=
  .access List.tail fun
    | [] => .fault
    | _ :: _ => next

/-- The member functions between locking the mutex and unlocking it. -/
def code : Call α → Body (SafeQueue α) (Result α)
  | .push value => .access (fun queue => queue.push value) fun _ => .notifyOne (.done .pushed)
  | .popWait => .waitWhile List.isEmpty (front fun val => pop (.done (.value val)))
  | .tryPop => .access id fun queue =>
    if queue.isEmpty then .done (.popped none) else front fun val => pop (.done (.popped (some val)))
  | .empty => .access id fun queue => .done (.empty queue.isEmpty)
  | .size => .access id fun queue => .done (.size queue.length)

def atomically : Call α → SafeQueue α → Option (Result α × SafeQueue α)
  | .push value, queue => some (.pushed, queue.push value)
  | .popWait, queue =>
    match queue.tryPop with
    | (some val, queue) => some (.value val, queue)
    | (none, _) => none
  | .tryPop, queue => some (.popped queue.tryPop.1, queue.tryPop.2)
  | .empty, queue => some (.empty queue.isEmpty, queue)
  | .size, queue => some (.size queue.length, queue)

theorem run_code (op : Call α) (queue : SafeQueue α) : (code op).run queue = atomically op queue := by
  cases op <;> cases queue <;> simp [code, atomically, front, pop, Body.run, tryPop]

theorem safe_code : Safe (code (α := α)) := by
  intro op queue hrun
  rw [run_code] at hrun
  cases op with
  | popWait =>
    refine ⟨_, _, rfl, ?_⟩
    cases queue with
    | nil => rfl
    | cons val queue => simp [atomically, tryPop] at hrun
  | _ => simp [atomically] at hrun

theorem notifies_code : Notifies (code (α := α)) List.length where
  waits {op condition next} heq queue hc := by
    cases op with
    | popWait =>
      obtain ⟨rfl, -⟩ := Body.waitWhile.inj heq
      simpa using hc
    | _ => simp [code] at heq
  takes {op condition next queue result queue'} heq hrun := by
    cases op with
    | popWait =>
      rw [run_code] at hrun
      cases queue with
      | nil => simp [atomically, tryPop] at hrun
      | cons val queue =>
        simp only [atomically, tryPop, Option.some.injEq, Prod.mk.injEq] at hrun
        simp [← hrun.2]
    | _ => simp [code] at heq
  pays {op queue result queue'} hrun := by
    rw [run_code] at hrun
    cases op with
    | push value =>
      simp only [atomically, push, Option.some.injEq, Prod.mk.injEq] at hrun
      simp [← hrun.2, code, Body.notifications]
    | popWait =>
      cases queue with
      | nil => simp [atomically, tryPop] at hrun
      | cons val queue =>
        simp only [atomically, tryPop, Option.some.injEq, Prod.mk.injEq] at hrun
        rw [← hrun.2, List.length_cons]
        omega
    | tryPop =>
      simp only [atomically, Option.some.injEq, Prod.mk.injEq] at hrun
      cases queue <;> simp [← hrun.2, tryPop]
      omega
    | empty =>
      simp only [atomically, Option.some.injEq, Prod.mk.injEq] at hrun
      simp [← hrun.2]
    | size =>
      simp only [atomically, Option.some.injEq, Prod.mk.injEq] at hrun
      simp [← hrun.2]

theorem cost_code_le (op : Call α) (queue : SafeQueue α) : (code op).cost 5 queue ≤ 5 := by
  cases op <;> cases queue <;> simp [code, front, pop, Body.cost]

abbrev Shared (Θ α : Type) := Monitor.State Θ (Call α) (SafeQueue α) (Result α)

abbrev Atomic (Θ α : Type) := Monitor.Atomic.State Θ (Call α) (SafeQueue α) (Result α)

abbrev Trace (Θ α : Type) := List (Monitor.Event Θ (Call α) (Result α))

section Runs

variable [DecidableEq Θ] [DecidableEq α]

abbrev Shared.Run (trace : Trace Θ α) (m : Shared Θ α) : Prop :=
  Runs.Shows (fun m act m' => Monitor.State.step code m act = some m') Monitor.Action.visible
    (Monitor.State.new []) trace m

abbrev Atomic.Run (trace : Trace Θ α) (a : Atomic Θ α) : Prop :=
  Runs.Shows (fun a act a' => Monitor.Atomic.State.step atomically a act = some a') Monitor.Atomic.Action.visible
    (Monitor.Atomic.State.new []) trace a

theorem atomicStep_eq : Monitor.AtomicStep (Θ := Θ) (code (α := α)) =
    fun a act a' => Monitor.Atomic.State.step atomically a act = some a' := by
  have hcode : (fun op => (code (α := α) op).run) = atomically := funext fun op => funext (run_code op)
  funext a act a'
  rw [← hcode]

theorem Shared.Run.refines {trace : Trace Θ α} {m : Shared Θ α} (h : m.Run trace) :
    ∃ a : Atomic Θ α, a.Run trace ∧ Monitor.Refines code m a := by
  obtain ⟨a, ha, hR⟩ := Monitor.refines_atomic safe_code h
  rw [atomicStep_eq] at ha
  exact ⟨a, ha, hR⟩

/-- One call at a time is all that can be seen of the queue, whatever the threads do between locking and
unlocking it; the element is there whenever one is taken. -/
theorem safe_queue_calls_take_effect_at_once (trace : Trace Θ α) (m : Shared Θ α) (h : m.Run trace) :
    (∃ a : Atomic Θ α, a.Run trace ∧ (m.mutex = none → m.content = a.content)) ∧
      (∀ t u, (m.point t).isInside = true → (m.point u).isInside = true → t = u) ∧
        ∀ t op, m.point t ≠ .inside op .fault := by
  obtain ⟨a, ha, hR⟩ := h.refines
  refine ⟨⟨a, ha, fun hfree => (hR.content hfree).symm⟩, ?_, ?_⟩
  · intro t u ht hu
    exact Option.some.inj (((hR.mutex t).mpr ht).symm.trans ((hR.mutex u).mpr hu))
  · intro t op hp
    obtain ⟨result, hrun, -⟩ := hR.runs safe_code hp (fun _ _ heq => by cases heq)
    cases hrun

def sampleCalls : List (Monitor.Action Bool (Call ℕ) (Result ℕ)) :=
  [.call false .popWait, .lock false, .run false, .call true (.push 7), .lock true, .run true, .notify true false,
    .run true, .leave true .pushed, .lock false, .run false, .run false, .run false, .run false,
    .leave false (.value 7)]

theorem safe_queue_calls_take_effect_at_once_run :
    ∃ m : Shared Bool ℕ, m.Run (sampleCalls.filterMap Monitor.Action.visible) ∧
      (∃ a : Atomic Bool ℕ, a.Run (sampleCalls.filterMap Monitor.Action.visible) ∧
        (m.mutex = none → m.content = a.content)) := by
  obtain ⟨m, hm⟩ : ∃ m, Runs.replay (Monitor.State.step code) (Monitor.State.new []) sampleCalls = some m :=
    Option.isSome_iff_exists.mp (by decide)
  have hrun : Shared.Run (sampleCalls.filterMap Monitor.Action.visible) m := Runs.shows_of_replay hm
  exact ⟨m, hrun, (safe_queue_calls_take_effect_at_once _ m hrun).1⟩

/-- Under every schedule the calls that have been made come to an end, but for a `pop_wait` that waits for an
element while there is none. -/
theorem safe_queue_calls_return [Fintype Θ] (m : Shared Θ α)
    (h : Runs.Reachable (fun m act m' => Monitor.State.step code m act = some m') (Monitor.State.new []) m) :
    (∃ bound, ∀ acts m', (∀ act ∈ acts, Monitor.Action.isInternal act = true) →
      Runs.replay (Monitor.State.step code) m acts = some m' → acts.length ≤ bound) ∧
    (¬ m.CanGoOn code → ∀ t, m.point t = .outside ∨
      t ∈ m.blocked ∧ (∃ body, m.point t = .waiting .popWait body) ∧ m.content = []) := by
  have hI := Monitor.invariant_of_reachable safe_code notifies_code h
  refine ⟨⟨m.cost 5, fun acts m' hacts hreplay => ?_⟩, fun hstop t => ?_⟩
  · exact hI.length_le safe_code notifies_code cost_code_le hacts hreplay
  · obtain ⟨a, hR⟩ := hI.refines
    apply (hI.served.stops safe_code hR hI.waiters hstop t).imp id
    rintro ⟨hblocked, hnone⟩
    refine ⟨hblocked, ?_, List.eq_nil_of_length_eq_zero hnone⟩
    have hwaiting := (hI.waiters.listed t).mpr (.inl hblocked)
    cases hp : m.point t with
    | waiting op body =>
      obtain ⟨condition, next, hcode⟩ := hI.served.waits t op body hp
      cases op with
      | popWait => exact ⟨body, rfl⟩
      | _ => simp [code] at hcode
    | _ =>
      rw [hp] at hwaiting
      cases hwaiting

theorem safe_queue_calls_return_run : ∃ m : Shared Bool ℕ,
    m.blocked = {false} ∧ (¬ m.CanGoOn code → ∀ t, m.point t = .outside ∨
      t ∈ m.blocked ∧ (∃ body, m.point t = .waiting .popWait body) ∧ m.content = []) := by
  have hrun : ((Runs.replay (Monitor.State.step code) (Monitor.State.new [] : Shared Bool ℕ)
      (sampleCalls.take 3)).any fun m => decide (m.blocked = {false})) = true := by decide
  obtain ⟨m, hm, hblocked⟩ := Runs.exists_reachable hrun
  exact ⟨m, of_decide_eq_true hblocked, (safe_queue_calls_return m hm).2⟩

end Runs

section OneReaderOneWriter

def pushes (trace : Trace Θ α) : List α :=
  trace.filterMap fun
    | .called _ (.push value) => some value
    | _ => none

def takes (trace : Trace Θ α) : List α :=
  trace.filterMap fun
    | .returned _ (.value val) => some val
    | .returned _ (.popped val) => val
    | _ => none

def Between (writer reader : Θ) : Monitor.Event Θ (Call α) (Result α) → Prop
  | .called t (.push _) => t = writer
  | .called t .popWait => t = reader
  | .called t .tryPop => t = reader
  | _ => True

abbrev Seen (α : Type) := Monitor.Atomic.Point (Call α) (Result α)

def offered : Seen α → List α
  | .pending (.push value) => [value]
  | _ => []

def handed : Seen α → List α
  | .finished (.value val) => [val]
  | .finished (.popped val) => val.toList
  | _ => []

def isTaking : Seen α → Bool
  | .pending .popWait => true
  | .pending .tryPop => true
  | .finished (.value _) => true
  | .finished (.popped _) => true
  | _ => false

def isPushing : Seen α → Bool
  | .pending (.push _) => true
  | _ => false

structure Flow (writer reader : Θ) (trace : Trace Θ α) (a : Atomic Θ α) : Prop where
  flow : pushes trace = takes trace ++ handed (a.point reader) ++ a.content ++ offered (a.point writer)
  pushing : ∀ t, isPushing (a.point t) = true → t = writer
  taking : ∀ t, isTaking (a.point t) = true → t = reader

variable {writer reader t : Θ} {trace : Trace Θ α} {a a' : Atomic Θ α}

@[simp] theorem handed_outside : handed (.outside : Seen α) = [] := rfl
@[simp] theorem handed_pending (op : Call α) : handed (.pending op) = [] := rfl
@[simp] theorem offered_outside : offered (.outside : Seen α) = [] := rfl
@[simp] theorem offered_finished (result : Result α) : offered (.finished result) = [] := rfl

theorem pushes_append (trace trace' : Trace Θ α) : pushes (trace ++ trace') = pushes trace ++ pushes trace' :=
  List.filterMap_append

theorem takes_append (trace trace' : Trace Θ α) : takes (trace ++ trace') = takes trace ++ takes trace' :=
  List.filterMap_append

theorem offered_of_not {p : Seen α} (h : isPushing p = false) : offered p = [] := by
  cases p with
  | pending op => cases op <;> simp_all [isPushing, offered]
  | _ => rfl

theorem handed_of_not {p : Seen α} (h : isTaking p = false) : handed p = [] := by
  cases p with
  | finished result => cases result <;> simp_all [isTaking, handed]
  | _ => rfl

theorem atomically_result {op : Call α} {queue queue' : SafeQueue α} {result : Result α}
    (h : atomically op queue = some (result, queue')) :
    queue ++ offered (.pending op) = handed (.finished result) ++ queue' ∧
      isTaking (.finished result) = isTaking (.pending op : Seen α) := by
  cases op with
  | push value =>
    cases h
    exact ⟨rfl, rfl⟩
  | popWait =>
    cases queue with
    | nil => cases h
    | cons val queue =>
      cases h
      exact ⟨List.append_nil _, rfl⟩
  | tryPop =>
    cases queue with
    | nil =>
      cases h
      exact ⟨rfl, rfl⟩
    | cons val queue =>
      cases h
      exact ⟨List.append_nil _, rfl⟩
  | empty =>
    cases h
    exact ⟨List.append_nil _, rfl⟩
  | size =>
    cases h
    exact ⟨List.append_nil _, rfl⟩

variable [DecidableEq Θ]

@[simp] theorem content_goTo (a : Atomic Θ α) (t : Θ) (p : Seen α) : (a.goTo t p).content = a.content := rfl

theorem Flow.points (h : Flow writer reader trace a) {p : Seen α} (hpush : isPushing p = true → t = writer)
    (htake : isTaking p = true → t = reader) :
    (∀ u, isPushing ((a.goTo t p).point u) = true → u = writer) ∧
      ∀ u, isTaking ((a.goTo t p).point u) = true → u = reader := by
  constructor
  · intro u hu
    by_cases heq : u = t
    · subst heq
      exact hpush (by simpa [Monitor.Atomic.State.goTo] using hu)
    · exact h.pushing u (by simpa [Monitor.Atomic.State.goTo, heq] using hu)
  · intro u hu
    by_cases heq : u = t
    · subst heq
      exact htake (by simpa [Monitor.Atomic.State.goTo] using hu)
    · exact h.taking u (by simpa [Monitor.Atomic.State.goTo, heq] using hu)

theorem apply_goTo {β : Type} (f : Seen α → β) (a : Atomic Θ α) (t u : Θ) (p : Seen α) :
    f ((a.goTo t p).point u) = if u = t then f p else f (a.point u) := by
  by_cases hu : u = t
  · simp [Monitor.Atomic.State.goTo, hu]
  · simp [Monitor.Atomic.State.goTo, hu]

theorem Flow.calls (h : Flow writer reader trace a) {op : Call α} (hp : a.point t = .outside)
    (hbetween : Between writer reader (.called t op)) :
    Flow writer reader (trace ++ [.called t op]) (a.goTo t (.pending op)) := by
  have hpush : isPushing (.pending op : Seen α) = true → t = writer := by
    cases op <;> simp_all [Between, isPushing]
  have htake : isTaking (.pending op : Seen α) = true → t = reader := by
    cases op <;> simp_all [Between, isTaking]
  have hpoints := h.points hpush htake
  refine ⟨?_, hpoints.1, hpoints.2⟩
  have hpushed : pushes [.called t op] = offered (.pending op) := by cases op <;> rfl
  have htaken : takes [.called t op] = [] := rfl
  have hhanded : (if reader = t then handed (.pending op) else handed (a.point reader)) = handed (a.point reader) := by
    split
    next hr => simp [hr, hp]
    next => rfl
  rw [apply_goTo handed, apply_goTo offered, pushes_append, takes_append, hpushed, htaken, hhanded, h.flow,
    List.append_nil, content_goTo]
  split
  next hw => simp [hw, hp]
  next hw =>
    have hnone : offered (.pending op) = [] :=
      offered_of_not (Bool.eq_false_iff.mpr (fun htrue => hw (hpush htrue).symm))
    rw [hnone, List.append_nil]

theorem Flow.performs (h : Flow writer reader trace a) {op : Call α} (hp : a.point t = .pending op)
    {result : Result α} {queue : SafeQueue α} (hop : atomically op a.content = some (result, queue)) :
    Flow writer reader trace { a.goTo t (.finished result) with content := queue } := by
  obtain ⟨heq, htaking⟩ := atomically_result hop
  have hpush := h.pushing t
  have htake := h.taking t
  rw [hp] at hpush htake
  have hpoints := h.points (t := t) (p := .finished result) (fun hfalse => by cases hfalse)
    (fun hfinished => htake (htaking ▸ hfinished))
  refine ⟨?_, hpoints.1, hpoints.2⟩
  have hoffered : t ≠ writer → offered (.pending op) = [] := fun hne =>
    offered_of_not (Bool.eq_false_iff.mpr (fun htrue => hne (hpush htrue)))
  have hhanded : t ≠ reader → handed (.finished result) = [] := fun hne =>
    handed_of_not (Bool.eq_false_iff.mpr (fun htrue => hne (htake (htaking ▸ htrue))))
  change pushes trace = takes trace ++ handed ((a.goTo t (.finished result)).point reader) ++ queue ++
    offered ((a.goTo t (.finished result)).point writer)
  have hflow := h.flow
  rw [apply_goTo handed, apply_goTo offered]
  by_cases hr : reader = t
  · by_cases hw : writer = t
    · simp_all
    · have hnone := hoffered (Ne.symm hw)
      have hqueue : a.content = handed (.finished result) ++ queue := by simpa [hnone] using heq
      simp_all
  · have hnone := hhanded (Ne.symm hr)
    by_cases hw : writer = t
    · simp_all
    · have hnone' := hoffered (Ne.symm hw)
      simp_all

theorem Flow.returns (h : Flow writer reader trace a) {result : Result α} (hp : a.point t = .finished result) :
    Flow writer reader (trace ++ [.returned t result]) (a.goTo t .outside) := by
  have htake := h.taking t
  rw [hp] at htake
  have hpoints := h.points (t := t) (p := .outside) (fun hfalse => by cases hfalse) (fun hfalse => by cases hfalse)
  refine ⟨?_, hpoints.1, hpoints.2⟩
  have htaken : takes [.returned t result] = handed (.finished result) := by
    cases result with
    | popped val => cases val <;> rfl
    | _ => rfl
  have hhanded : t ≠ reader → handed (.finished result) = [] := fun hne =>
    handed_of_not (Bool.eq_false_iff.mpr (fun htrue => hne (htake htrue)))
  have hflow := h.flow
  rw [apply_goTo handed, apply_goTo offered, pushes_append, takes_append, htaken]
  by_cases hr : reader = t
  · by_cases hw : writer = t
    · simp_all [pushes]
    · simp_all [pushes]
  · have hnone := hhanded (Ne.symm hr)
    by_cases hw : writer = t
    · simp_all [pushes]
    · simp_all [pushes]

theorem Flow.step (h : Flow writer reader trace a) {act : Monitor.Atomic.Action Θ (Call α) (Result α)}
    [DecidableEq α] (hs : a.step atomically act = some a')
    (hbetween : ∀ e ∈ act.visible, Between writer reader e) :
    Flow writer reader (trace ++ act.visible.toList) a' := by
  cases act with
  | call t op =>
    simp only [Monitor.Atomic.State.step] at hs
    split at hs
    next hp =>
      cases hs
      exact h.calls hp (hbetween _ rfl)
    next => cases hs
  | perform t =>
    simp only [Monitor.Atomic.State.step] at hs
    split at hs
    next op hp =>
      obtain ⟨⟨result, queue⟩, hop, rfl⟩ := Option.map_eq_some_iff.mp hs
      rw [show trace ++ (Monitor.Atomic.Action.visible (.perform t)).toList = trace from List.append_nil trace]
      exact h.performs hp hop
    next => cases hs
  | leave t result =>
    simp only [Monitor.Atomic.State.step] at hs
    split at hs
    next r hp =>
      split at hs
      next heq =>
        cases heq
        cases hs
        exact h.returns hp
      next => cases hs
    next => cases hs

theorem Atomic.Run.flow [DecidableEq α] (h : Atomic.Run trace a) (hbetween : ∀ e ∈ trace, Between writer reader e) :
    Flow writer reader trace a := by
  induction h with
  | refl => exact ⟨rfl, fun t ht => Bool.noConfusion ht, fun t ht => Bool.noConfusion ht⟩
  | tail _ hs ih =>
    refine (ih (fun e he => hbetween e (List.mem_append_left _ he))).step hs (fun e he => ?_)
    exact hbetween e (List.mem_append_right _ (Option.mem_toList.mpr he))

/-- Between one writer and one reader nothing is lost, duplicated or overtaken. -/
theorem safe_queue_keeps_order [DecidableEq α] (writer reader : Θ) (trace : Trace Θ α) (m : Shared Θ α)
    (h : m.Run trace)
    (hbetween : ∀ e ∈ trace, Between writer reader e) :
    takes trace <+: pushes trace ∧
      (m.point writer = .outside → m.point reader = .outside → m.mutex = none →
        pushes trace = takes trace ++ m.content) := by
  obtain ⟨a, ha, hR⟩ := h.refines
  have hflow := (ha.flow hbetween).flow
  constructor
  · rw [hflow, List.append_assoc, List.append_assoc]
    exact List.prefix_append _ _
  · intro hw hr hfree
    rw [hflow, hR.of_outside hw, hR.of_outside hr, hR.content hfree]
    simp [handed, offered]

theorem safe_queue_keeps_order_run : ∃ m : Shared Bool ℕ,
    takes (sampleCalls.filterMap Monitor.Action.visible) = [7] ∧
      takes (sampleCalls.filterMap Monitor.Action.visible) <+:
        pushes (sampleCalls.filterMap Monitor.Action.visible) ∧
      (m.point true = .outside → m.point false = .outside → m.mutex = none →
        pushes (sampleCalls.filterMap Monitor.Action.visible) =
          takes (sampleCalls.filterMap Monitor.Action.visible) ++ m.content) := by
  obtain ⟨m, hm⟩ : ∃ m, Runs.replay (Monitor.State.step code) (Monitor.State.new []) sampleCalls = some m :=
    Option.isSome_iff_exists.mp (by decide)
  refine ⟨m, rfl, safe_queue_keeps_order true false _ m (Runs.shows_of_replay hm) ?_⟩
  intro e he
  simp only [sampleCalls, Monitor.Action.visible, List.filterMap_cons, List.filterMap_nil, List.mem_cons,
    List.not_mem_nil, or_false] at he
  rcases he with rfl | rfl | rfl | rfl
  · rfl
  · rfl
  · trivial
  · trivial

end OneReaderOneWriter

end ArqBenchmark.SafeQueue
