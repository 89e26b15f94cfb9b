import ArqBenchmark.SelectiveRepeatWindow

namespace ArqBenchmark.Rs.SelectiveRepeat

open RotatedRing

variable {b : SelectiveRepeat} {w : List (Option DataPacket)} {p : DataPacket}

/-- Between two calls the first packet of the window is missing. -/
structure Settled (b : SelectiveRepeat) (w : List (Option DataPacket)) : Prop extends b.Holds w where
  first_missing : ∀ p, w[0]? ≠ some (some p)

theorem new_settled (windowSize : UInt16) (first : SequenceNumber) :
    (new windowSize first).Settled (List.replicate windowSize.toNat none) where
  toHolds := new_holds windowSize first
  first_missing p hp := by simp [List.getElem?_replicate] at hp

theorem Settled.withShadow (h : b.Settled w) (shadow : SafeQueue DataPacket) (sends : Bool) :
    ({ b with
      shadowBuffer := shadow
      canSendAcks := sends } : SelectiveRepeat).Settled w where
  toHolds := ⟨h.length_eq, h.start_lt, h.view, h.count, h.sequence⟩
  first_missing := h.first_missing

theorem Settled.getNextPacket (h : b.Settled w) : b.getNextPacket.2.Settled w := h.withShadow _ _

theorem outsideWindow_iff {sn : SequenceNumber} :
    b.outsideWindow sn = true ↔ sn.toNat < b.earliestExpected.toNat ∨
      b.earliestExpected.toNat + b.windowSize.toNat ≤ sn.toNat := by
  rw [outsideWindow, Bool.or_eq_true, decide_eq_true_eq, decide_eq_true_eq, UInt16.lt_iff_toNat_lt]

theorem insertionIdx_eq {sn : SequenceNumber} {k : ℕ} (hk : sn.toNat = b.earliestExpected.toNat + k) :
    b.insertionIdx sn = (b.startIdx + k) % b.windowSize.toNat := by
  have hsum : (b.startIdx : ℤ) + (sn.toNat : ℤ) - (b.earliestExpected.toNat : ℤ) =
      ((b.startIdx + k : ℕ) : ℤ) := by
    omega
  rw [insertionIdx, arithmeticModulo, hsum, Int.tmod_eq_emod_of_nonneg (Int.natCast_nonneg _),
    ← Int.natCast_mod]
  simp only [Int.natCast_nonneg, ↓reduceIte, Int.toNat_natCast]

theorem Holds.inside (h : b.Holds w) {sn : SequenceNumber} (hin : b.outsideWindow sn ≠ true) :
    ∃ k slot, sn.toNat = b.earliestExpected.toNat + k ∧ w[k]? = some slot ∧
      b.buffer[b.insertionIdx sn]? = some slot := by
  rw [ne_eq, outsideWindow_iff] at hin
  have hw := h.window_length
  obtain ⟨k, hk⟩ : ∃ k, sn.toNat = b.earliestExpected.toNat + k :=
    ⟨sn.toNat - b.earliestExpected.toNat, by omega⟩
  have hslot : w[k]? = some w[k] := List.getElem?_eq_getElem (by omega)
  exact ⟨k, w[k], hk, hslot, by rw [insertionIdx_eq hk]; exact h.slot hslot⟩

theorem addPacket_outside (hout : b.outsideWindow p.header.sequenceNumber = true) :
    b.addPacket p = .ok (b.ack, b) := by
  simp only [SelectiveRepeat.addPacket, DataPacket.getHeader, hout, ↓reduceIte]
  rfl

theorem addPacket_occupied {x : DataPacket} (hin : b.outsideWindow p.header.sequenceNumber = false)
    (hread : b.buffer[b.insertionIdx p.header.sequenceNumber]? = some (some x)) :
    b.addPacket p = .ok (ack { b with canSendAcks := true }, { b with canSendAcks := true }) := by
  have hidx : ({ b with canSendAcks := true } : SelectiveRepeat).insertionIdx p.header.sequenceNumber =
      b.insertionIdx p.header.sequenceNumber := rfl
  simp only [SelectiveRepeat.addPacket, DataPacket.getHeader, hin, hidx, readAt_eq hread, Loops.ok_bind]
  rfl

def inserted (b : SelectiveRepeat) (buffer : List (Option DataPacket)) : SelectiveRepeat :=
  { b with
    canSendAcks := true
    buffer := buffer
    packetsInBuffer := Rt.increment b.packetsInBuffer }

theorem addPacket_free {buffer : List (Option DataPacket)} {b' : SelectiveRepeat}
    (hin : b.outsideWindow p.header.sequenceNumber = false)
    (hread : b.buffer[b.insertionIdx p.header.sequenceNumber]? = some none)
    (hwrite : writeAt b.buffer (b.insertionIdx p.header.sequenceNumber) (some p) = .ok buffer)
    (hupdate : (b.inserted buffer).updateBuffer = .ok b') : b.addPacket p = .ok (b'.ack, b') := by
  have hidx : ({ b with canSendAcks := true } : SelectiveRepeat).insertionIdx p.header.sequenceNumber =
      b.insertionIdx p.header.sequenceNumber := rfl
  have hstate : updateBuffer { b with
      canSendAcks := true
      buffer := buffer
      packetsInBuffer := Rt.increment b.packetsInBuffer } = .ok b' := hupdate
  simp only [SelectiveRepeat.addPacket, DataPacket.getHeader, hin, hidx, readAt_eq hread, Loops.ok_bind, hwrite,
    hstate]
  rfl

def Completes (b : SelectiveRepeat) (p : DataPacket) : Prop :=
  p.header.sequenceNumber = b.earliestExpected ∧ b.packetsInBuffer + 1 = b.windowSize.toNat

/-- What `do_addPacket` does: `run` is pushed to the shadow buffer, and the window moves behind it
unless the packet completed the window. -/
structure Added (b : SelectiveRepeat) (w : List (Option DataPacket)) (p : DataPacket)
    (run : List DataPacket) (b' : SelectiveRepeat) (w' : List (Option DataPacket)) : Prop where
  settled : b'.Settled w'
  shadow : b'.shadowBuffer = b.shadowBuffer ++ run
  size : b'.windowSize = b.windowSize
  sends : b'.canSendAcks = (b.canSendAcks || !b.outsideWindow p.header.sequenceNumber)
  length_le : run.length ≤ b.windowSize.toNat
  sequence : ∀ i x, run[i]? = some x → x.header.sequenceNumber.toNat = b.earliestExpected.toNat + i
  kept : ∀ x, x ∈ run ∨ some x ∈ w' → x = p ∧ b.accepts p = true ∨ some x ∈ w
  stored : b.accepts p = true → p ∈ run ∨ some p ∈ w'
  pushes : 0 < b.windowSize.toNat → (run ≠ [] ↔ p.header.sequenceNumber = b.earliestExpected)
  moved : ¬ b.Completes p → b'.earliestExpected = b.earliestExpected + UInt16.ofNat run.length
  stuck : b.Completes p → b'.earliestExpected = b.earliestExpected ∧ run.length = b.windowSize.toNat

theorem Settled.rejected (h : b.Settled w) (hr : b.accepts p ≠ true) {sends : Bool}
    (hs : sends = (b.canSendAcks || !b.outsideWindow p.header.sequenceNumber))
    (hne : 0 < b.windowSize.toNat → p.header.sequenceNumber ≠ b.earliestExpected) :
    Added b w p [] { b with canSendAcks := sends } w where
  settled := h.withShadow _ _
  shadow := (List.append_nil _).symm
  size := rfl
  sends := hs
  length_le := Nat.zero_le _
  sequence i x hx := by simp at hx
  kept x hx := .inr (hx.resolve_left (List.not_mem_nil))
  stored ha := absurd ha hr
  pushes hpos := by simp [hne hpos]
  moved _ := by
    rw [List.length_nil, show UInt16.ofNat 0 = 0 from rfl, UInt16.add_zero]
  stuck hc := by
    have hpos : 0 < b.windowSize.toNat := by
      have := hc.2
      omega
    exact absurd hc.1 (hne hpos)

theorem Settled.insert (h : b.Settled w) {k : ℕ}
    (hk : p.header.sequenceNumber.toNat = b.earliestExpected.toNat + k)
    (hfree : w[k]? = some none) :
    ∃ buffer, writeAt b.buffer (b.insertionIdx p.header.sequenceNumber) (some p) = .ok buffer ∧
      (b.inserted buffer).Holds (w.set k (some p)) := by
  have hlt : k < w.length := (List.getElem?_eq_some_iff.mp hfree).1
  have hw := h.window_length
  have hpos := h.size_pos hfree
  have hsize := b.windowSize.toNat_lt
  have hcount : (w.set k (some p)).countP Option.isSome = w.countP Option.isSome + 1 := by
    rw [List.countP_set hlt, (List.getElem?_eq_some_iff.mp hfree).2]
    simp
  refine ⟨_, writeAt_eq ?_ _, ?_, fun hpos => h.start_lt hpos, ?_, ?_, ?_⟩
  · rw [insertionIdx_eq hk, h.length_eq]
    exact Nat.mod_lt _ hpos
  · exact List.length_set.trans h.length_eq
  · have hset := rotate_set b.buffer b.startIdx (i := k) (by rw [h.length_eq]; omega) (some p)
    rw [h.length_eq, h.view] at hset
    rw [insertionIdx_eq hk]
    exact hset
  · have hle : w.countP Option.isSome ≤ w.length := List.countP_le_length
    change Rt.increment b.packetsInBuffer = _
    rw [hcount, h.count, Rt.increment]
    omega
  · intro i x hx
    by_cases hik : k = i
    · subst hik
      rw [List.getElem?_set_self hlt] at hx
      obtain rfl := Option.some.inj (Option.some.inj hx)
      exact hk
    · rw [List.getElem?_set_ne hik] at hx
      exact h.sequence i x hx

theorem Settled.filled (h : b.Settled w) {k : ℕ}
    (hk : p.header.sequenceNumber.toNat = b.earliestExpected.toNat + k)
    (hfree : w[k]? = some none) :
    b.accepts p = true ∧ b.outsideWindow p.header.sequenceNumber = false := by
  have hlt : k < w.length := (List.getElem?_eq_some_iff.mp hfree).1
  have hw := h.window_length
  have hin : b.outsideWindow p.header.sequenceNumber = false := by
    rw [Bool.eq_false_iff, ne_eq, outsideWindow_iff]
    omega
  have hslot := h.slot hfree
  rw [← insertionIdx_eq hk] at hslot
  refine ⟨?_, hin⟩
  simp [accepts, DataPacket.getHeader, hin, hslot]

theorem mem_set_slot {k : ℕ} {x : DataPacket} (hx : some x ∈ w.set k (some p)) : x = p ∨ some x ∈ w := by
  rcases List.mem_or_eq_of_mem_set hx with hx | hx
  · exact .inr hx
  · exact .inl (Option.some.inj hx)

theorem Settled.split (h : b.Settled w) {k : ℕ}
    (hk : p.header.sequenceNumber.toNat = b.earliestExpected.toNat + k)
    (hfree : w[k]? = some none) {run : List DataPacket} {rest : List (Option DataPacket)}
    (hsplit : w.set k (some p) = run.map some ++ rest) (hrest : rest = [] ∨ ∃ t, rest = none :: t) :
    (run ≠ [] ↔ p.header.sequenceNumber = b.earliestExpected) ∧ (rest = [] ↔ b.Completes p) := by
  have hlt : k < w.length := (List.getElem?_eq_some_iff.mp hfree).1
  have hw := h.window_length
  have hzero : p.header.sequenceNumber = b.earliestExpected ↔ k = 0 := by
    rw [← UInt16.toNat_inj]
    omega
  have hlen : w.length = run.length + rest.length := by
    have hset : (w.set k (some p)).length = w.length := List.length_set
    rw [← hset, hsplit, List.length_append, List.length_map]
  -- A packet is pushed exactly when the new one is in the first slot.
  have hrun : run ≠ [] ↔ k = 0 := by
    constructor
    · intro hne
      by_contra hk0
      obtain ⟨x, run', rfl⟩ := List.exists_cons_of_ne_nil hne
      refine h.first_missing x ?_
      rw [← List.getElem?_set_ne hk0, hsplit]
      rfl
    · rintro rfl rfl
      rcases hrest with rfl | ⟨t, rfl⟩
      · simp only [List.length_nil] at hlen
        omega
      · have hfirst : (w.set 0 (some p))[0]? = some (some p) := List.getElem?_set_self hlt
        rw [hsplit] at hfirst
        cases hfirst
  have hcount : (w.set k (some p)).countP Option.isSome = b.packetsInBuffer + 1 := by
    rw [List.countP_set hlt, (List.getElem?_eq_some_iff.mp hfree).2, h.count]
    simp
  refine ⟨hrun.trans hzero.symm, ?_⟩
  constructor
  · rintro rfl
    refine ⟨hzero.mpr (hrun.mp ?_), ?_⟩
    · rintro rfl
      simp only [List.length_nil] at hlen
      omega
    · rw [← hcount, hsplit, List.append_nil, List.countP_map, List.countP_eq_length.mpr (by simp), ← hw, hlen]
      rfl
  · rintro ⟨-, hfull⟩
    rcases hrest with hnil | ⟨t, rfl⟩
    · exact hnil
    · -- The first slot of `rest` is free, so the packets cannot fill the window.
      rw [← hcount, hsplit, List.countP_append, List.countP_cons_of_neg (by simp), ← hw, hlen] at hfull
      have h₁ : (run.map some).countP Option.isSome ≤ run.length := by
        simpa using List.countP_le_length (p := Option.isSome) (l := run.map some)
      have h₂ : t.countP Option.isSome ≤ t.length := List.countP_le_length
      simp only [List.length_cons] at hfull
      omega

section Insert

variable {k : ℕ} {buffer : List (Option DataPacket)} {run : List DataPacket} {rest : List (Option DataPacket)}

theorem sequence_of_split (hholds : (b.inserted buffer).Holds (w.set k (some p)))
    (hsplit : w.set k (some p) = run.map some ++ rest) (i : ℕ) (x : DataPacket) (hx : run[i]? = some x) :
    x.header.sequenceNumber.toNat = b.earliestExpected.toNat + i := by
  have hi : i < run.length := (List.getElem?_eq_some_iff.mp hx).1
  refine hholds.sequence i x ?_
  rw [hsplit, List.getElem?_append_left (by rwa [List.length_map]), List.getElem?_map, hx]
  rfl

theorem Settled.added_full (h : b.Settled w)
    (hk : p.header.sequenceNumber.toNat = b.earliestExpected.toNat + k) (hfree : w[k]? = some none)
    (hholds : (b.inserted buffer).Holds (w.set k (some p))) (hsplit : w.set k (some p) = run.map some) :
    ∃ b' w', (b.inserted buffer).updateBuffer = .ok b' ∧ Added b w p run b' w' := by
  have hall : w.set k (some p) = run.map some ++ [] := by rw [hsplit, List.append_nil]
  obtain ⟨hacc, hin⟩ := h.filled hk hfree
  obtain ⟨hpushes, hfull⟩ := h.split hk hfree hall (.inl rfl)
  have hlen : run.length = b.windowSize.toNat := by
    rw [← h.window_length, ← List.length_set (a := some p) (i := k), hsplit, List.length_map]
  have hsequence := sequence_of_split hholds hall
  have hself : some p ∈ run.map some := hsplit ▸ List.mem_set (List.getElem?_eq_some_iff.mp hfree).1 _
  rw [hsplit] at hholds
  obtain ⟨b', hupdate, hshadow, hsize, hsends, he, hH⟩ := updateBuffer_full hholds (h.size_pos hfree)
  have hfirst : ∀ x, (List.replicate b.windowSize.toNat (none : Option DataPacket))[0]? ≠ some (some x) := by
    intro x hx
    simp [List.getElem?_replicate] at hx
  refine ⟨b', _, hupdate, ⟨⟨hH, hfirst⟩, hshadow, hsize, ?_, Nat.le_of_eq hlen, hsequence, ?_, ?_,
    fun _ => hpushes, ?_, fun _ => ⟨he, hlen⟩⟩⟩
  · rw [hsends, hin, inserted]
    simp
  · rintro x (hx | hx)
    · exact (mem_set_slot (hsplit ▸ List.mem_map_of_mem hx)).imp_left (fun hp => ⟨hp, hacc⟩)
    · exact absurd (List.eq_of_mem_replicate hx) (by simp)
  · intro _
    simpa using hself
  · exact fun hc => absurd (hfull.mp rfl) hc

theorem Settled.added_gap (h : b.Settled w)
    (hk : p.header.sequenceNumber.toNat = b.earliestExpected.toNat + k) (hfree : w[k]? = some none)
    (hholds : (b.inserted buffer).Holds (w.set k (some p)))
    (hsplit : w.set k (some p) = run.map some ++ none :: rest) :
    ∃ b' w', (b.inserted buffer).updateBuffer = .ok b' ∧ Added b w p run b' w' := by
  obtain ⟨hacc, hin⟩ := h.filled hk hfree
  obtain ⟨hpushes, hfull⟩ := h.split hk hfree hsplit (.inr ⟨rest, rfl⟩)
  have hlen : run.length ≤ b.windowSize.toNat := by
    rw [← h.window_length, ← List.length_set (a := some p) (i := k), hsplit, List.length_append,
      List.length_map]
    exact Nat.le_add_right _ _
  have hsequence := sequence_of_split hholds hsplit
  have hmem : ∀ x, some x ∈ run.map some ++ none :: rest → x = p ∧ b.accepts p = true ∨ some x ∈ w :=
    fun x hx => (mem_set_slot (hsplit ▸ hx)).imp_left (fun hp => ⟨hp, hacc⟩)
  have hself : some p ∈ run.map some ++ none :: rest :=
    hsplit ▸ List.mem_set (List.getElem?_eq_some_iff.mp hfree).1 _
  rw [hsplit] at hholds
  obtain ⟨b', hupdate, hshadow, hsize, hsends, he, hH⟩ := updateBuffer_gap hholds
  refine ⟨b', _, hupdate, ⟨⟨hH, nofun⟩, hshadow, hsize, ?_, hlen, hsequence, ?_, ?_, fun _ => hpushes,
    fun _ => he, ?_⟩⟩
  · rw [hsends, hin, inserted]
    simp
  · rintro x (hx | hx)
    · exact hmem x (List.mem_append_left _ (List.mem_map_of_mem hx))
    · rcases List.mem_append.mp hx with hx | hx
      · exact hmem x (List.mem_append_right _ hx)
      · exact absurd (List.eq_of_mem_replicate hx) (by simp)
  · intro _
    rcases List.mem_append.mp hself with hx | hx
    · exact .inl (by simpa using hx)
    · exact .inr (List.mem_append_left _ hx)
  · exact fun hc => absurd (hfull.mpr hc) (List.cons_ne_nil _ _)

end Insert

theorem Settled.addPacket (h : b.Settled w) (p : DataPacket) :
    ∃ run b' w', b.addPacket p = .ok (b'.ack, b') ∧ Added b w p run b' w' := by
  by_cases hout : b.outsideWindow p.header.sequenceNumber = true
  · have hr : b.accepts p ≠ true := by simp [accepts, DataPacket.getHeader, hout]
    refine ⟨[], b, w, addPacket_outside hout, h.rejected hr (by simp [hout]) ?_⟩
    rintro hpos heq
    rw [heq, outsideWindow_iff] at hout
    omega
  · obtain ⟨k, slot, hk, hslot, hread⟩ := h.inside hout
    have hin := Bool.eq_false_iff.mpr hout
    cases slot with
    | some x =>
      have hr : b.accepts p ≠ true := by simp [accepts, DataPacket.getHeader, hread]
      refine ⟨[], _, w, addPacket_occupied hin hread, h.rejected hr (by simp [hin]) ?_⟩
      rintro - heq
      obtain rfl : k = 0 := by
        rw [heq] at hk
        omega
      exact h.first_missing x hslot
    | none =>
      obtain ⟨buffer, hwrite, hholds⟩ := h.insert hk hslot
      obtain ⟨run, rest, hsplit, hrest⟩ := exists_filled_front (w.set k (some p))
      rcases hrest with rfl | ⟨t, rfl⟩
      · rw [List.append_nil] at hsplit
        obtain ⟨b', w', hupdate, hadded⟩ := h.added_full hk hslot hholds hsplit
        exact ⟨run, b', w', addPacket_free hin hread hwrite hupdate, hadded⟩
      · obtain ⟨b', w', hupdate, hadded⟩ := h.added_gap hk hslot hholds hsplit
        exact ⟨run, b', w', addPacket_free hin hread hwrite hupdate, hadded⟩

end ArqBenchmark.Rs.SelectiveRepeat
