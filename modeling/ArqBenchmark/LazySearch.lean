import Mathlib.Data.List.Chain

namespace ArqBenchmark.LazySearch

abbrev Text := List Char

/-- What `.+?` takes: as few characters as there can be in front of a text that `stop` accepts. -/
def upTo (stop : Text → Bool) : Text → Option Text
  | [] => none
  | c :: rest =>
    if c = '\n' then none
    else if stop rest then some [c]
    else (upTo stop rest).map (c :: ·)

/-- `re.search` with the regular expression `start(.+?)stop`: what the group takes in the leftmost match. -/
def search (start : Text) (stop : Text → Bool) : Text → Option Text
  | [] => none
  | c :: rest =>
    let found := if start.isPrefixOf (c :: rest) then upTo stop ((c :: rest).drop start.length) else none
    found <|> search start stop rest

def atEnd (rest : Text) : Bool := rest == [] || rest == ['\n']

variable {start front text tail line : Text} {stop : Text → Bool} {a b : Char}

theorem upTo_append (hline : '\n' ∉ text) (hne : text ≠ []) (htail : stop tail = true)
    (hfirst : ∀ u v, text = u ++ v → u ≠ [] → v ≠ [] → stop (v ++ tail) = false) :
    upTo stop (text ++ tail) = some text := by
  induction text with
  | nil => exact absurd rfl hne
  | cons c text ih =>
    rw [List.mem_cons, not_or] at hline
    have hc : c ≠ '\n' := fun heq => hline.1 heq.symm
    rw [List.cons_append, upTo, if_neg hc]
    cases text with
    | nil =>
      rw [List.nil_append, if_pos htail]
    | cons d text =>
      have hlater : stop (d :: text ++ tail) = false := hfirst [c] (d :: text) rfl (by simp) (by simp)
      have hrest : upTo stop (d :: text ++ tail) = some (d :: text) := by
        apply ih hline.2 (by simp)
        intro u v heq hu hv
        exact hfirst (c :: u) v (by rw [heq, List.cons_append]) (by simp) hv
      rw [hlater, if_neg Bool.false_ne_true, hrest]
      rfl

theorem upTo_literal (hline : '\n' ∉ text) (hne : text ≠ []) (ha : a ∉ text) (rest : Text) :
    upTo (a :: rest).isPrefixOf (text ++ (a :: rest ++ tail)) = some text := by
  apply upTo_append hline hne
  · exact List.isPrefixOf_iff_prefix.mpr (List.prefix_append _ _)
  · intro u v heq _ hv
    cases v with
    | nil => exact absurd rfl hv
    | cons c v =>
      have hc : a ≠ c := by
        intro hac
        apply ha
        rw [heq, hac]
        simp
      rw [List.cons_append, List.cons_append, List.isPrefixOf, beq_false_of_ne hc, Bool.false_and]

theorem upTo_atEnd (hline : '\n' ∉ text) (hne : text ≠ []) : upTo atEnd (text ++ ['\n']) = some text := by
  apply upTo_append hline hne rfl
  intro u v heq _ hv
  cases v with
  | nil => exact absurd rfl hv
  | cons c v => cases v <;> simp [atEnd]

theorem search_here (hne : start ≠ []) (h : upTo stop tail = some text) :
    search start stop (start ++ tail) = some text := by
  cases start with
  | nil => exact absurd rfl hne
  | cons c start =>
    have hprefix : (c :: start).isPrefixOf (c :: (start ++ tail)) = true :=
      List.isPrefixOf_iff_prefix.mpr (List.prefix_append (c :: start) tail)
    have hdrop : (c :: (start ++ tail)).drop (c :: start).length = tail := by
      rw [← List.cons_append, List.drop_left]
    rw [List.cons_append, search, if_pos hprefix, hdrop, h]
    rfl

theorem search_next (c : Char) (h : ¬ start <+: c :: line) :
    search start stop (c :: line) = search start stop line := by
  rw [search, if_neg (fun hprefix => h (List.isPrefixOf_iff_prefix.mp hprefix))]
  rfl

theorem isChain_append_of_notMem (hfront : List.IsChain (fun x y => ¬ (x = a ∧ y = b)) front) (hb : b ∉ text) :
    List.IsChain (fun x y => ¬ (x = a ∧ y = b)) (front ++ text) := by
  have htext : text.Pairwise fun x y => ¬ (x = a ∧ y = b) := by
    apply List.pairwise_of_forall_mem_list
    rintro x _ y hy ⟨-, rfl⟩
    exact hb hy
  apply hfront.append htext.isChain
  rintro x _ y hy ⟨-, rfl⟩
  exact hb (List.mem_of_mem_head? hy)

theorem search_skip (h : List.IsChain (fun x y => ¬ (x = a ∧ y = b)) (front ++ [a])) (rest tail : Text) :
    search (a :: b :: rest) stop (front ++ a :: tail) = search (a :: b :: rest) stop (a :: tail) := by
  induction front with
  | nil => rfl
  | cons c front ih =>
    rw [List.cons_append] at h ⊢
    rw [search_next, ih h.tail]
    intro hprefix
    obtain ⟨hac, hrest⟩ := List.cons_prefix_cons.mp hprefix
    cases front with
    | nil =>
      have hba := (List.cons_prefix_cons.mp hrest).1
      exact (List.isChain_cons_cons.mp h).1 ⟨hac.symm, hba.symm⟩
    | cons d front =>
      have hbd := (List.cons_prefix_cons.mp hrest).1
      exact (List.isChain_cons_cons.mp h).1 ⟨hac.symm, hbd.symm⟩

theorem search_none (h : ¬ start <:+: line) : search start stop line = none := by
  induction line with
  | nil => rfl
  | cons c line ih =>
    rw [search_next, ih]
    · exact fun hinside => h (hinside.trans (List.suffix_cons c line).isInfix)
    · exact fun hprefix => h hprefix.isInfix

end ArqBenchmark.LazySearch
