import ArqBenchmark.Runs

namespace ArqBenchmark.Runs

variable {σ τ α β ε : Type} {step : σ → α → σ → Prop} {step' : τ → β → τ → Prop}
  {visible : α → Option ε} {visible' : β → Option ε} {s t u : σ} {trace trace' : List ε}

/-- The runs from `s`, with what can be seen of their actions. -/
inductive Shows (step : σ → α → σ → Prop) (visible : α → Option ε) (s : σ) : List ε → σ → Prop
  | refl : Shows step visible s [] s
  | tail {t u : σ} {a : α} {trace : List ε} : Shows step visible s trace t → step t a u →
      Shows step visible s (trace ++ (visible a).toList) u

theorem Shows.trans (h : Shows step visible s trace t) (h' : Shows step visible t trace' u) :
    Shows step visible s (trace ++ trace') u := by
  induction h' with
  | refl => simpa using h
  | tail _ hs ih =>
    rw [← List.append_assoc]
    exact ih.tail hs

theorem Shows.single {a : α} (hs : step s a t) : Shows step visible s (visible a).toList t :=
  Shows.tail .refl hs

theorem Shows.silent {a : α} (hs : step s a t) (ha : visible a = none) : Shows step visible s [] t := by
  have h : Shows step visible s (visible a).toList t := .single hs
  rwa [ha] at h

/-- A forward simulation: what can be seen of one system can be seen of the other. -/
theorem Shows.simulated {S : σ → τ → Prop} (hstep : ∀ s t a s', S s t → step s a s' →
      ∃ t', Shows step' visible' t (visible a).toList t' ∧ S s' t')
    {x : σ} {y : τ} (h : Shows step visible x trace s) (h0 : S x y) :
    ∃ t, Shows step' visible' y trace t ∧ S s t := by
  induction h with
  | refl => exact ⟨y, .refl, h0⟩
  | tail _ hs ih =>
    obtain ⟨t, ht, hS⟩ := ih
    obtain ⟨t', ht', hS'⟩ := hstep _ _ _ _ hS hs
    exact ⟨t', ht.trans ht', hS'⟩

theorem shows_of_replay {next : σ → α → Option σ} {calls : List α} (h : replay next s calls = some t) :
    Shows (fun s a s' => next s a = some s') visible s (calls.filterMap visible) t := by
  induction calls generalizing s with
  | nil =>
    obtain rfl := Option.some.inj h
    exact .refl
  | cons a calls ih =>
    obtain ⟨u, hu, hrest⟩ := Option.bind_eq_some_iff.mp h
    have hfirst : Shows (fun s a s' => next s a = some s') visible s (visible a).toList u := .single hu
    have htrace : (a :: calls).filterMap visible = (visible a).toList ++ calls.filterMap visible := by
      cases ha : visible a <;> simp [ha]
    rw [htrace]
    exact hfirst.trans (ih hrest)

/-- What `look` shows of the actions, of each in the state in which it is done. -/
def seen (next : σ → α → Option σ) (look : σ → α → Option ε) (s : σ) : List α → List ε
  | [] => []
  | a :: calls => (look s a).toList ++ ((next s a).elim [] fun t => seen next look t calls)

theorem seen_extends {next : σ → α → Option σ} {look : σ → α → Option ε} {P : α → Prop} {I : List ε → σ → Prop}
    (hstep : ∀ trace s a t, I trace s → P a → next s a = some t → I (trace ++ (look s a).toList) t) {calls : List α}
    (hP : ∀ a ∈ calls, P a) (h0 : I trace s) (h : replay next s calls = some t) :
    I (trace ++ seen next look s calls) t := by
  induction calls generalizing s trace with
  | nil =>
    obtain rfl := Option.some.inj h
    simpa [seen] using h0
  | cons a calls ih =>
    obtain ⟨u, hu, hrest⟩ := Option.bind_eq_some_iff.mp h
    have hnext := hstep trace s a u h0 (hP a List.mem_cons_self) hu
    have hall := ih (fun b hb => hP b (List.mem_cons_of_mem a hb)) hnext hrest
    rwa [seen, hu, Option.elim_some, ← List.append_assoc]

theorem replay_length_le {next : σ → α → Option σ} {I : σ → Prop} {P : α → Prop} {measure : σ → ℕ}
    (hstep : ∀ s a t, I s → P a → next s a = some t → I t ∧ measure t < measure s) {calls : List α}
    (hP : ∀ a ∈ calls, P a) (h0 : I s) (h : replay next s calls = some t) :
    calls.length + measure t ≤ measure s := by
  induction calls generalizing s with
  | nil =>
    obtain rfl := Option.some.inj h
    simp
  | cons a calls ih =>
    obtain ⟨u, hu, hrest⟩ := Option.bind_eq_some_iff.mp h
    obtain ⟨hI, hlt⟩ := hstep s a u h0 (hP a List.mem_cons_self) hu
    have hle := ih (fun b hb => hP b (List.mem_cons_of_mem a hb)) hI hrest
    rw [List.length_cons]
    omega

end ArqBenchmark.Runs
