import ArqBenchmark.System

namespace ArqBenchmark

namespace Action

def clock : Action → Option Clock
  | .sendPacket now | .transmitThread now | .resequencingThread now => some now
  | _ => none

def Reads (act : Action) (T T' : Time) : Prop :=
  T ≤ T' ∧ ∀ now ∈ act.clock, (∀ i j, i ≤ j → now i ≤ now j) ∧ ∀ i, T ≤ now i ∧ now i ≤ T'

def Quiet : Action → Prop
  | .dropData _ | .duplicateData _ | .dropAck _ | .duplicateAck _ => False
  | _ => True

theorem reads_refl {act : Action} (h : act.clock = none) (T : Time) : act.Reads T T := by
  refine ⟨Int.le_refl T, fun now hnow => ?_⟩
  rw [h] at hnow
  cases hnow

theorem reads_const {act : Action} {T T' : Time} (h : act.clock = some fun _ => T') (hle : T ≤ T') :
    act.Reads T T' := by
  refine ⟨hle, fun now hnow => ?_⟩
  obtain rfl : (fun _ => T') = now := Option.some.inj (h.symm.trans hnow)
  exact ⟨fun _ _ _ => Int.le_refl T', fun _ => ⟨hle, Int.le_refl T'⟩⟩

end Action

namespace System

variable {B R : Type} [RetransmissionBuffer B] [ResequencingBuffer R]

def TimedStep (s : System B R × Time) (act : Action) (s' : System B R × Time) : Prop :=
  s.1.step act = some s'.1 ∧ act.Reads s.2 s'.2

/-- Whatever the time is, the threads can go on to a state of `Q` while the network is quiet. -/
def CanReach (s : System B R) (Q : System B R → Prop) : Prop :=
  ∀ T : Time, Runs.CanReach TimedStep (fun _ act => act.Quiet) (s, T) fun t => Q t.1

variable {s s' : System B R} {P Q : System B R → Prop} {act : Action}

theorem CanReach.here (h : Q s) : s.CanReach Q := fun _ => Runs.CanReach.here h

theorem CanReach.bind (h : s.CanReach P) (hnext : ∀ t, P t → t.CanReach Q) : s.CanReach Q :=
  fun T => (h T).bind (fun t ht => hnext t.1 ht t.2)

theorem CanReach.mono (h : s.CanReach P) (hPQ : ∀ t, P t → Q t) : s.CanReach Q :=
  h.bind (fun t ht => .here (hPQ t ht))

theorem CanReach.of_step (hs : s.step act = some s') (hquiet : act.Quiet) (hclock : act.clock = none)
    (h : s'.CanReach Q) : s.CanReach Q :=
  fun T => Runs.CanReach.of_step (a := act) (t := (s', T)) hquiet ⟨hs, Action.reads_refl hclock T⟩ (h T)

theorem CanReach.of_step_at (act : Clock → Action) (hquiet : ∀ now, (act now).Quiet)
    (hclock : ∀ now, (act now).clock = some now)
    (h : ∀ T, ∃ T', T ≤ T' ∧ ∃ s', s.step (act fun _ => T') = some s' ∧ s'.CanReach Q) : s.CanReach Q := by
  intro T
  obtain ⟨T', hle, s', hs, hQ⟩ := h T
  exact Runs.CanReach.of_step (a := act fun _ => T') (t := (s', T')) (hquiet _)
    ⟨hs, Action.reads_const (hclock _) hle⟩ (hQ T')

theorem CanReach.of_step_now (act : Clock → Action) (hquiet : ∀ now, (act now).Quiet)
    (hclock : ∀ now, (act now).clock = some now)
    (h : ∀ T, ∃ s', s.step (act fun _ => T) = some s' ∧ s'.CanReach Q) : s.CanReach Q :=
  .of_step_at act hquiet hclock (fun T => ⟨T, Int.le_refl T, h T⟩)

theorem CanReach.of_measure {β : Type} [Preorder β] [WellFoundedLT β] {m : System B R → β}
    (h : ∀ s, P s → s.CanReach fun t => Q t ∨ P t ∧ m t < m s) (hs : P s) : s.CanReach Q :=
  fun T => Runs.CanReach.of_measure (P := fun x : System B R × Time => P x.1) (m := fun x => m x.1)
    (fun x hx => h x.1 hx x.2) (s := (s, T)) hs

end System

end ArqBenchmark
