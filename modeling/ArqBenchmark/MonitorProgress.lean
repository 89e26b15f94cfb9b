import ArqBenchmark.MonitorRefinement
import Mathlib.Algebra.BigOperators.Group.Finset.Basic
import Mathlib.Data.Fintype.Card

namespace ArqBenchmark.Monitor

variable {Θ ω σ ρ : Type}

def Point.isWaiting : Point ω σ ρ → Bool
  | .waiting _ _ => true
  | _ => false

structure Waiters (m : State Θ ω σ ρ) : Prop where
  listed : ∀ t, (m.point t).isWaiting = true ↔ t ∈ m.blocked ∨ t ∈ m.woken
  disjoint : ∀ t ∈ m.blocked, t ∉ m.woken

/-- `available` counts what the waiting functions take: they wait only while there is none, and whoever adds
to it wakes a thread for each one added. -/
structure Notifies (code : ω → Body σ ρ) (available : σ → ℕ) : Prop where
  waits : ∀ {op condition next}, code op = .waitWhile condition next → ∀ s, condition s = true → available s = 0
  takes : ∀ {op condition next s result s'}, code op = .waitWhile condition next →
    (code op).run s = some (result, s') → available s' + 1 ≤ available s + (code op).notifications s
  pays : ∀ {op s result s'}, (code op).run s = some (result, s') →
    available s' ≤ available s + (code op).notifications s

/-- While threads are blocked, enough others are awake to take all there is. -/
structure Served (code : ω → Body σ ρ) (available : σ → ℕ) (m : State Θ ω σ ρ) : Prop where
  waits : ∀ t op body, m.point t = .waiting op body → ∃ condition next, code op = .waitWhile condition next
  free : m.blocked.Nonempty → m.mutex = none → available m.content ≤ m.woken.card
  held : m.blocked.Nonempty → ∀ t op body, m.point t = .inside op body → ∀ result s,
    body.run m.content = some (result, s) → available s ≤ m.woken.card + body.notifications m.content

section Invariants

variable {code : ω → Body σ ρ} {m m' : State Θ ω σ ρ} {a : Atomic.State Θ ω σ ρ} {act : Action Θ ω ρ} {t u : Θ}
  {op : ω} {body : Body σ ρ} {p : Point ω σ ρ} {available : σ → ℕ}

theorem new_waiters (content : σ) : Waiters (State.new (Θ := Θ) (ω := ω) (ρ := ρ) content) where
  listed t := by simp [State.new, Point.isWaiting]
  disjoint t ht := by simp [State.new] at ht

theorem new_served (code : ω → Body σ ρ) (content : σ) :
    Served code available (State.new (Θ := Θ) content) where
  waits t op body hp := by simp [State.new] at hp
  free hb := by simp [State.new] at hb
  held hb := by simp [State.new] at hb

theorem Waiters.notMem (h : Waiters m) (hp : (m.point t).isWaiting = false) : t ∉ m.blocked ∧ t ∉ m.woken := by
  have hnot := (h.listed t).not
  simp_all

variable [DecidableEq Θ]

theorem Waiters.moves (h : Waiters m) (hp : (m.point t).isWaiting = false) (hp' : p.isWaiting = false)
    {content : σ} {mutex : Option Θ} : Waiters { m.goTo t p with content := content, mutex := mutex } where
  listed u := by
    by_cases hu : u = t
    · subst hu
      simp [hp', h.notMem hp]
    · simp [hu, h.listed u]
  disjoint := h.disjoint

theorem Waiters.wakes (h : Waiters m) (hu : u ∈ m.blocked) :
    Waiters { m with blocked := m.blocked.erase u, woken := insert u m.woken } where
  listed t := by
    rw [h.listed t, Finset.mem_erase, Finset.mem_insert]
    by_cases ht : t = u
    · simp [ht, hu]
    · simp [ht]
  disjoint t ht := by
    rw [Finset.mem_erase] at ht
    simp [ht.1, h.disjoint t ht.2]

theorem Waiters.relocks (h : Waiters m) (hwoken : t ∈ m.woken) :
    Waiters { m.goTo t (.inside op body) with mutex := some t, woken := m.woken.erase t } where
  listed u := by
    by_cases hu : u = t
    · subst hu
      have hnot : u ∉ m.blocked := fun hb => h.disjoint u hb hwoken
      simp [hnot, Point.isWaiting]
    · simp [hu, h.listed u]
  disjoint u hu := by simp [h.disjoint u hu]

theorem Waiters.waits (h : Waiters m) (hp : (m.point t).isWaiting = false) :
    Waiters { m.goTo t (.waiting op body) with mutex := none, blocked := insert t m.blocked } where
  listed u := by
    by_cases hu : u = t
    · subst hu
      simp [Point.isWaiting]
    · simp [hu, h.listed u]
  disjoint u hu := by
    rcases Finset.mem_insert.mp hu with rfl | hu
    · exact (h.notMem hp).2
    · exact h.disjoint u hu

theorem Waiters.step (h : Waiters m) (hs : m.Steps code act m') : Waiters m' := by
  cases hs with
  | calls op hp => exact h.moves (congrArg Point.isWaiting hp) rfl
  | locks _ hp => exact h.moves (congrArg Point.isWaiting hp) rfl
  | relocks _ _ hwoken => exact h.relocks hwoken
  | waits hp _ => exact h.waits (congrArg Point.isWaiting hp)
  | passes hp _ => exact h.moves (congrArg Point.isWaiting hp) rfl
  | accesses hp => exact h.moves (congrArg Point.isWaiting hp) rfl
  | notifiesNone hp _ => exact h.moves (congrArg Point.isWaiting hp) rfl
  | @notifies t u op next hp hu =>
    have hnext : Waiters { m.goTo t (.inside op next) with content := m.content, mutex := m.mutex } :=
      h.moves (congrArg Point.isWaiting hp) rfl
    exact hnext.wakes hu
  | finishes hp => exact h.moves (congrArg Point.isWaiting hp) rfl
  | wakes hu => exact h.wakes hu
  | returns hp => exact h.moves (congrArg Point.isWaiting hp) rfl

theorem Served.moves (h : Served code available m) (hR : Refines code m a)
    (hm : m.mutex = none ∨ m.mutex = some t) (hothers : ∀ u, u ≠ t → m'.point u = m.point u)
    (hwaits : ∀ op body, m'.point t = .waiting op body → ∃ condition next, code op = .waitWhile condition next)
    (hfree : m'.blocked.Nonempty → m'.mutex = none → available m'.content ≤ m'.woken.card)
    (hheld : m'.blocked.Nonempty → ∀ op body, m'.point t = .inside op body → ∀ result s,
      body.run m'.content = some (result, s) → available s ≤ m'.woken.card + body.notifications m'.content) :
    Served code available m' where
  waits u op body hp := by
    by_cases hu : u = t
    · subst hu
      exact hwaits op body hp
    · rw [hothers u hu] at hp
      exact h.waits u op body hp
  free := hfree
  held hb u op body hp := by
    by_cases hu : u = t
    · subst hu
      exact hheld hb op body hp
    · have hout := hR.alone hm u hu
      rw [hothers u hu] at hp
      rw [hp] at hout
      cases hout

theorem Served.passes_by (h : Served code available m) (hp : p.isInside = false) (hp' : p.isWaiting = false) :
    Served code available (m.goTo t p) where
  waits u op body hu := by
    by_cases heq : u = t
    · subst heq
      rw [State.goTo_point] at hu
      rw [hu] at hp'
      cases hp'
    · rw [State.goTo_point_ne heq] at hu
      exact h.waits u op body hu
  free := h.free
  held hb u op body hu := by
    by_cases heq : u = t
    · subst heq
      rw [State.goTo_point] at hu
      rw [hu] at hp
      cases hp
    · rw [State.goTo_point_ne heq] at hu
      exact h.held hb u op body hu

theorem Served.goes_on (h : Served code available m) (hR : Refines code m a) {next : Body σ ρ} {content : σ}
    {blocked woken : Finset Θ} (hp : m.point t = .inside op body) (hnext : next.run content = body.run m.content)
    (hblocked : blocked.Nonempty → m.blocked.Nonempty)
    (hpaid : blocked.Nonempty →
      m.woken.card + body.notifications m.content ≤ woken.card + next.notifications content) :
    Served code available
      { m.goTo t (.inside op next) with content := content, blocked := blocked, woken := woken } := by
  have hholds := hR.holds hp
  apply h.moves (t := t) hR (.inr hholds)
  · intro u hu
    simp [hu]
  · intro op body hwaiting
    simp at hwaiting
  · intro _ hnone
    simp [hholds] at hnone
  · intro hb op' body' hinside result s hrun
    simp only [State.goTo_point] at hinside
    cases hinside
    exact Nat.le_trans (h.held (hblocked hb) t op body hp result s (hnext.symm.trans hrun)) (hpaid hb)

theorem Served.locks (hN : Notifies code available) (h : Served code available m) (hR : Refines code m a)
    (hfree : m.mutex = none) :
    Served code available { m.goTo t (.inside op (code op)) with mutex := some t } := by
  apply h.moves (t := t) hR (.inl hfree)
  · intro u hu
    simp [hu]
  · intro op body hwaiting
    simp at hwaiting
  · intro _ hnone
    cases hnone
  · intro hb op' body' hinside result s hrun
    simp only [State.goTo_point] at hinside
    cases hinside
    have hle := h.free hb hfree
    have hpays := hN.pays hrun
    simp only [State.goTo_content, State.goTo_woken] at hpays ⊢
    omega

theorem Served.relocks (hN : Notifies code available) (h : Served code available m) (hR : Refines code m a)
    (hfree : m.mutex = none) (hp : m.point t = .waiting op body) (hwoken : t ∈ m.woken) :
    Served code available { m.goTo t (.inside op body) with mutex := some t, woken := m.woken.erase t } := by
  obtain ⟨condition, next, hcode⟩ := h.waits t op body hp
  obtain ⟨rfl, -⟩ := hR.of_waiting hp
  apply h.moves (t := t) hR (.inl hfree)
  · intro u hu
    simp [hu]
  · intro op body hwaiting
    simp at hwaiting
  · intro _ hnone
    cases hnone
  · intro hb op' body' hinside result s hrun
    simp only [State.goTo_point] at hinside
    cases hinside
    have hle := h.free hb hfree
    have htakes := hN.takes hcode hrun
    have hcard := Finset.card_erase_add_one hwoken
    simp only [State.goTo_content] at htakes ⊢
    omega

theorem Served.waits_on (hN : Notifies code available) (h : Served code available m) (hR : Refines code m a)
    {condition : σ → Bool} {next : Body σ ρ} (hp : m.point t = .inside op (.waitWhile condition next))
    (hc : condition m.content = true) {blocked : Finset Θ} : Served code available
      { m.goTo t (.waiting op (.waitWhile condition next)) with mutex := none, blocked := blocked } := by
  rcases hR.of_inside hp with ⟨hcode, -, -, -⟩ | ⟨result, hrun, -⟩
  · apply h.moves (t := t) hR (.inr (hR.holds hp))
    · intro u hu
      simp [hu]
    · intro op' body hwaiting
      simp only [State.goTo_point] at hwaiting
      cases hwaiting
      exact ⟨condition, next, hcode.symm⟩
    · intro _ _
      simp [hN.waits hcode.symm m.content hc]
    · intro _ op' body hinside
      simp at hinside
  · simp [Body.run, hc] at hrun

theorem Served.finishes (h : Served code available m) (hR : Refines code m a) {result : ρ}
    (hp : m.point t = .inside op (.done result)) :
    Served code available { m.goTo t (.returning result) with mutex := none } := by
  apply h.moves (t := t) hR (.inr (hR.holds hp))
  · intro u hu
    simp [hu]
  · intro op body hwaiting
    simp at hwaiting
  · intro hb _
    exact h.held hb t op _ hp result m.content rfl
  · intro _ op body hinside
    simp at hinside

theorem Served.step (hN : Notifies code available) (h : Served code available m) (hR : Refines code m a)
    (hW : Waiters m) (hs : m.Steps code act m') : Served code available m' := by
  have hwakes : ∀ u ∈ m.blocked, (insert u m.woken).card = m.woken.card + 1 :=
    fun u hu => Finset.card_insert_of_notMem (hW.disjoint u hu)
  cases hs with
  | calls op _ => exact h.passes_by rfl rfl
  | locks hfree _ => exact h.locks hN hR hfree
  | relocks hfree hp hwoken => exact h.relocks hN hR hfree hp hwoken
  | waits hp hc => exact h.waits_on hN hR hp hc
  | passes hp hc =>
    exact h.goes_on hR hp (by simp [Body.run, hc]) id (fun _ => by simp [Body.notifications, hc])
  | accesses hp => exact h.goes_on hR hp rfl id (fun _ => Nat.le_refl _)
  | notifiesNone hp hnone =>
    refine h.goes_on hR hp rfl id (fun hb => ?_)
    rw [hnone] at hb
    exact absurd hb Finset.not_nonempty_empty
  | @notifies t u op next hp hu =>
    refine h.goes_on hR hp rfl (fun _ => ⟨u, hu⟩) (fun _ => ?_)
    simp only [hwakes u hu, Body.notifications, State.goTo_content]
    omega
  | finishes hp => exact h.finishes hR hp
  | @wakes u hu =>
    refine ⟨h.waits, fun _ hfree => ?_, fun _ t op body hp result s hrun => ?_⟩
    · rw [hwakes u hu]
      exact Nat.le_succ_of_le (h.free ⟨u, hu⟩ hfree)
    · have hle := h.held ⟨u, hu⟩ t op body hp result s hrun
      rw [hwakes u hu, Nat.add_right_comm]
      exact Nat.le_succ_of_le hle
  | returns _ => exact h.passes_by rfl rfl

end Invariants

def Action.isInternal : Action Θ ω ρ → Bool
  | .call _ _ => false
  | .wakeSpuriously _ => false
  | _ => true

section Progress

variable [DecidableEq Θ] [DecidableEq ρ] {code : ω → Body σ ρ} {m m' : State Θ ω σ ρ} {a : Atomic.State Θ ω σ ρ}
  {act : Action Θ ω ρ} {t : Θ} {op : ω} {body : Body σ ρ} {available : σ → ℕ}

def State.CanGoOn (code : ω → Body σ ρ) (m : State Θ ω σ ρ) : Prop :=
  ∃ act m', Action.isInternal act = true ∧ m.step code act = some m'

theorem Refines.inside_goes_on (hsafe : Safe code) (hR : Refines code m a) (hp : m.point t = .inside op body) :
    m.CanGoOn code := by
  cases body with
  | waitWhile condition next =>
    cases hc : condition m.content with
    | true => exact ⟨.run t, _, rfl, by rw [State.step, hp]; exact if_pos hc⟩
    | false => exact ⟨.run t, _, rfl, by rw [State.step, hp]; exact if_neg (by simp [hc])⟩
  | access write next => exact ⟨.run t, _, rfl, by rw [State.step, hp]⟩
  | notifyOne next =>
    by_cases hnone : m.blocked = ∅
    · exact ⟨.run t, _, rfl, by rw [State.step, hp]; exact if_pos hnone⟩
    · obtain ⟨u, hu⟩ := Finset.nonempty_iff_ne_empty.mpr hnone
      exact ⟨.notify t u, _, rfl, by rw [State.step, hp]; exact if_pos hu⟩
  | done result => exact ⟨.run t, _, rfl, by rw [State.step, hp]⟩
  | fault =>
    obtain ⟨result, hrun, -⟩ := hR.runs hsafe hp (fun _ _ heq => by cases heq)
    cases hrun

theorem Waiters.woken_goes_on (h : Waiters m) (hfree : m.mutex = none) (hwoken : t ∈ m.woken) :
    m.CanGoOn code := by
  have hp := (h.listed t).mpr (.inr hwoken)
  cases hpoint : m.point t with
  | waiting op body =>
    refine ⟨.lock t, { m.goTo t (.inside op body) with mutex := some t, woken := m.woken.erase t }, rfl, ?_⟩
    simp [State.step, hfree, hpoint, hwoken]
  | _ =>
    rw [hpoint] at hp
    cases hp

theorem Served.stops (hsafe : Safe code) (h : Served code available m) (hR : Refines code m a) (hW : Waiters m)
    (hstop : ¬ m.CanGoOn code) (t : Θ) : m.point t = .outside ∨ t ∈ m.blocked ∧ available m.content = 0 := by
  have hfree : m.mutex = none := by
    cases hm : m.mutex with
    | none => rfl
    | some u =>
      have hin := (hR.mutex u).mp hm
      cases hp : m.point u with
      | inside op body => exact absurd (hR.inside_goes_on hsafe hp) hstop
      | _ =>
        rw [hp] at hin
        cases hin
  have hwoken : m.woken = ∅ := by
    apply Finset.eq_empty_of_forall_notMem
    intro u hu
    exact hstop (hW.woken_goes_on hfree hu)
  cases hp : m.point t with
  | outside => exact .inl rfl
  | locking op =>
    refine absurd ⟨.lock t, { m.goTo t (.inside op (code op)) with mutex := some t }, rfl, ?_⟩ hstop
    simp [State.step, hfree, hp]
  | inside op body => exact absurd (hR.inside_goes_on hsafe hp) hstop
  | waiting op body =>
    have hlisted := (hW.listed t).mp (congrArg Point.isWaiting hp)
    have hblocked : t ∈ m.blocked := by simpa [hwoken] using hlisted
    have hle := h.free ⟨t, hblocked⟩ hfree
    exact .inr ⟨hblocked, by simpa [hwoken] using hle⟩
  | returning result =>
    refine absurd ⟨.leave t result, m.goTo t .outside, rfl, ?_⟩ hstop
    simp [State.step, hp]

end Progress

namespace Body

/-- A bound on the steps of the function from here, where a thread that is to be blocked counts `stop` and a
notification counts the steps of the thread that it wakes. -/
def cost (stop : ℕ) : Body σ ρ → σ → ℕ
  | .waitWhile condition next, s => if condition s then stop else next.cost stop s + 1
  | .access write next, s => (next s).cost stop (write s) + 1
  | .notifyOne next, s => next.cost stop s + 4
  | .done _, _ => 0
  | .fault, _ => 0

end Body

def Point.cost (stop : ℕ) (content : σ) : Point ω σ ρ → ℕ
  | .outside => 0
  | .locking _ => stop + 3
  | .inside _ body => body.cost stop content + 2
  | .waiting _ _ => stop
  | .returning _ => 1

def State.cost [Fintype Θ] (stop : ℕ) (m : State Θ ω σ ρ) : ℕ :=
  ∑ t, (m.point t).cost stop m.content + 3 * m.woken.card

section Cost

variable [Fintype Θ] [DecidableEq Θ] {code : ω → Body σ ρ} {m m' : State Θ ω σ ρ} {a : Atomic.State Θ ω σ ρ}
  {act : Action Θ ω ρ} {t : Θ} {p : Point ω σ ρ} {stop : ℕ}

omit [Fintype Θ] [DecidableEq Θ] in
theorem Point.cost_elsewhere {q : Point ω σ ρ} (hq : q.isInside = false) (s s' : σ) :
    q.cost stop s = q.cost stop s' := by
  cases q with
  | inside op body => cases hq
  | _ => rfl

theorem sum_of_others {f g : Θ → ℕ} (h : ∀ u, u ≠ t → g u = f u) : ∑ u, g u + f t = ∑ u, f u + g t := by
  have hsame : ∑ u ∈ Finset.univ.erase t, g u = ∑ u ∈ Finset.univ.erase t, f u :=
    Finset.sum_congr rfl (fun u hu => h u (Finset.ne_of_mem_erase hu))
  have hg := Finset.sum_erase_add Finset.univ g (Finset.mem_univ t)
  have hf := Finset.sum_erase_add Finset.univ f (Finset.mem_univ t)
  omega

theorem cost_of_move {content : σ} {mutex : Option Θ} {blocked woken : Finset Θ}
    (hcontent : content = m.content ∨ ∀ u, u ≠ t → (m.point u).isInside = false)
    (h : p.cost stop content + 3 * woken.card < (m.point t).cost stop m.content + 3 * m.woken.card) :
    State.cost stop
      { m.goTo t p with content := content, mutex := mutex, blocked := blocked, woken := woken } < m.cost stop := by
  have hsum : ∑ u, ((m.goTo t p).point u).cost stop content + (m.point t).cost stop m.content =
      ∑ u, (m.point u).cost stop m.content + ((m.goTo t p).point t).cost stop content := by
    apply sum_of_others (t := t) (f := fun u => (m.point u).cost stop m.content)
    intro u hu
    rw [State.goTo_point_ne hu]
    rcases hcontent with heq | hout
    · rw [heq]
    · exact Point.cost_elsewhere (hout u hu) _ _
  rw [State.goTo_point] at hsum
  simp only [State.cost]
  omega

theorem cost_step (hstop : ∀ op s, (code op).cost stop s ≤ stop) (hR : Refines code m a) (hW : Waiters m)
    (hs : m.Steps code act m') (hact : act.isInternal = true) : m'.cost stop < m.cost stop := by
  cases hs with
  | calls => cases hact
  | wakes => cases hact
  | @locks t op hfree hp =>
    have hle := hstop op m.content
    apply cost_of_move (.inl rfl)
    simp only [State.goTo_woken, hp, Point.cost]
    omega
  | @relocks t op body hfree hp hwoken =>
    obtain ⟨rfl, -⟩ := hR.of_waiting hp
    have hle := hstop op m.content
    have hcard := Finset.card_erase_add_one hwoken
    apply cost_of_move (.inl rfl)
    simp only [hp, Point.cost]
    omega
  | @waits t op condition next hp hc =>
    apply cost_of_move (.inl rfl)
    simp only [State.goTo_woken, hp, Point.cost, Body.cost, hc, ↓reduceIte]
    omega
  | @passes t op condition next hp hc =>
    apply cost_of_move (.inl rfl)
    simp only [hp, Point.cost, Body.cost, hc, Bool.false_eq_true, ↓reduceIte]
    omega
  | @accesses t op write next hp =>
    apply cost_of_move (.inr (hR.alone (.inr (hR.holds hp))))
    simp only [State.goTo_woken, hp, Point.cost, Body.cost]
    omega
  | @notifiesNone t op next hp _ =>
    apply cost_of_move (.inl rfl)
    simp only [hp, Point.cost, Body.cost]
    omega
  | @notifies t u op next hp hu =>
    have hcard := Finset.card_insert_of_notMem (hW.disjoint u hu)
    apply cost_of_move (.inl rfl)
    simp only [hp, Point.cost, Body.cost]
    omega
  | @finishes t op result hp =>
    apply cost_of_move (.inl rfl)
    simp only [State.goTo_woken, hp, Point.cost, Body.cost]
    omega
  | @returns t result hp =>
    apply cost_of_move (.inl rfl)
    simp only [hp, Point.cost]
    omega

end Cost

structure Invariant (code : ω → Body σ ρ) (available : σ → ℕ) (m : State Θ ω σ ρ) : Prop where
  refines : ∃ a, Refines code m a
  waiters : Waiters m
  served : Served code available m

theorem new_invariant (code : ω → Body σ ρ) (available : σ → ℕ) (content : σ) :
    Invariant code available (State.new (Θ := Θ) content) :=
  ⟨⟨_, new_refines code content⟩, new_waiters content, new_served code content⟩

section Runs

variable [DecidableEq Θ] [DecidableEq ρ] {code : ω → Body σ ρ} {m : State Θ ω σ ρ} {content : σ}
  {available : σ → ℕ} {stop : ℕ}

theorem Invariant.step (hsafe : Safe code) (hN : Notifies code available) {m' : State Θ ω σ ρ} {act : Action Θ ω ρ}
    (h : Invariant code available m) (hs : m.step code act = some m') : Invariant code available m' := by
  have hsteps := State.step_steps hs
  obtain ⟨a, hR⟩ := h.refines
  obtain ⟨a', -, hR'⟩ := hR.step hsafe hsteps
  exact ⟨⟨a', hR'⟩, h.waiters.step hsteps, h.served.step hN hR h.waiters hsteps⟩

theorem invariant_of_reachable (hsafe : Safe code) (hN : Notifies code available)
    (h : Runs.Reachable (fun m act m' => State.step code m act = some m') (State.new content) m) :
    Invariant code available m :=
  h.invariant (new_invariant code available content) (fun _ _ _ hI _ hs => hI.step hsafe hN hs)

/-- Without new calls, and without the condition variable waking a thread by itself, all functions stop. -/
theorem Invariant.length_le [Fintype Θ] (hsafe : Safe code) (hN : Notifies code available)
    (hstop : ∀ op s, (code op).cost stop s ≤ stop) (h : Invariant code available m)
    {acts : List (Action Θ ω ρ)} {m' : State Θ ω σ ρ} (hacts : ∀ act ∈ acts, act.isInternal = true)
    (hreplay : Runs.replay (State.step code) m acts = some m') : acts.length ≤ m.cost stop := by
  have hle : acts.length + m'.cost stop ≤ m.cost stop := by
    refine Runs.replay_length_le (I := Invariant code available) ?_ hacts h hreplay
    intro m act m' hI hact hs
    obtain ⟨a, hR⟩ := hI.refines
    exact ⟨hI.step hsafe hN hs, cost_step hstop hR hI.waiters (State.step_steps hs) hact⟩
  omega

end Runs

end ArqBenchmark.Monitor
