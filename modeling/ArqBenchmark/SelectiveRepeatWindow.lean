import ArqBenchmark.ResequencingBuffer
import ArqBenchmark.RotatedRing

namespace ArqBenchmark.Rs.SelectiveRepeat

open RotatedRing

variable {b : SelectiveRepeat} {w : List (Option DataPacket)}

/-- Read from `startIdx_`, the slots are those of `w`, and a packet sits at the distance of its
sequence number from `earliestExpected_`. -/
structure Holds (b : SelectiveRepeat) (w : List (Option DataPacket)) : Prop where
  length_eq : b.buffer.length = b.windowSize.toNat
  start_lt : 0 < b.windowSize.toNat → b.startIdx < b.windowSize.toNat
  view : b.buffer.rotate b.startIdx = w
  count : b.packetsInBuffer = w.countP Option.isSome
  sequence : ∀ k p, w[k]? = some (some p) →
    p.header.sequenceNumber.toNat = b.earliestExpected.toNat + k

theorem Holds.window_length (h : b.Holds w) : w.length = b.windowSize.toNat := by
  rw [← h.view, List.length_rotate, h.length_eq]

theorem Holds.slot (h : b.Holds w) {i : ℕ} {slot : Option DataPacket} (hi : w[i]? = some slot) :
    b.buffer[(b.startIdx + i) % b.windowSize.toNat]? = some slot := by
  have hlt : i < w.length := (List.getElem?_eq_some_iff.mp hi).1
  rw [h.window_length, ← h.length_eq] at hlt
  rw [← hi, ← h.view, ← h.length_eq]
  exact getElem?_offset b.buffer b.startIdx hlt

theorem Holds.size_pos (h : b.Holds w) {i : ℕ} {slot : Option DataPacket} (hi : w[i]? = some slot) :
    0 < b.windowSize.toNat := by
  have hlt : i < w.length := (List.getElem?_eq_some_iff.mp hi).1
  rw [h.window_length] at hlt
  omega

theorem new_holds (windowSize : UInt16) (first : SequenceNumber) :
    (new windowSize first).Holds (List.replicate windowSize.toNat none) where
  length_eq := by simp only [new, List.length_replicate]
  start_lt h := h
  view := by simp only [new, List.rotate_zero]
  count := by
    rw [List.countP_replicate]
    rfl
  sequence k p hp := by simp [List.getElem?_replicate] at hp

structure Pushed (b : SelectiveRepeat) (w : List (Option DataPacket)) (i : ℕ) (s : SelectiveRepeat) : Prop where
  filled : ∀ k < i, ∃ p, w[k]? = some (some p)
  state : ∃ buffer, s = { b with
    shadowBuffer := b.shadowBuffer ++ (w.take i).filterMap id
    buffer := buffer
    packetsInBuffer := (w.drop i).countP Option.isSome }
  length_eq : s.buffer.length = b.windowSize.toNat
  view : s.buffer.rotate b.startIdx = List.replicate i none ++ w.drop i

theorem Pushed.slot {s : SelectiveRepeat} {i : ℕ} (h : Pushed b w i s) (hw : w.length = b.windowSize.toNat)
    {slot : Option DataPacket} (hi : w[i]? = some slot) :
    s.buffer[(b.startIdx + i) % b.windowSize.toNat]? = some slot := by
  have hlt : i < s.buffer.length := by
    rw [h.length_eq, ← hw]
    exact (List.getElem?_eq_some_iff.mp hi).1
  rw [← h.length_eq, getElem?_offset _ _ hlt, h.view,
    List.getElem?_append_right (by rw [List.length_replicate]), List.length_replicate, Nat.sub_self,
    List.getElem?_drop, Nat.add_zero, hi]

theorem Pushed.push (hb : b.Holds w) {s : SelectiveRepeat} {i : ℕ} (h : Pushed b w i s) {p : DataPacket}
    (hi : w[i]? = some (some p)) :
    ∃ s', pushSlot ((b.startIdx + i) % b.windowSize.toNat) s = .ok (.inl s') ∧ Pushed b w (i + 1) s' := by
  have hw := hb.window_length
  obtain ⟨hlt, hget⟩ := List.getElem?_eq_some_iff.mp hi
  have hslot := readAt_eq (h.slot hw hi)
  have hdrop : w.drop i = some p :: w.drop (i + 1) := by rw [List.drop_eq_getElem_cons hlt, hget]
  have hcount : (w.drop i).countP Option.isSome = (w.drop (i + 1)).countP Option.isSome + 1 := by
    rw [hdrop, List.countP_cons_of_pos rfl]
  have hbound : (w.drop (i + 1)).countP Option.isSome < 2 ^ 16 := by
    refine Nat.lt_of_le_of_lt (Nat.le_trans List.countP_le_length ?_) b.windowSize.toNat_lt
    rw [List.length_drop, hw]
    omega
  have htake : (w.take (i + 1)).filterMap id = (w.take i).filterMap id ++ [p] := by
    rw [List.take_add_one, hi, List.filterMap_append]
    rfl
  have hidx : (b.startIdx + i) % b.windowSize.toNat < s.buffer.length := by
    rw [h.length_eq]
    exact Nat.mod_lt _ (by omega)
  obtain ⟨hfilled, ⟨buffer, rfl⟩, hlen, hview⟩ := h
  refine ⟨{ b with
    shadowBuffer := b.shadowBuffer ++ (w.take (i + 1)).filterMap id
    buffer := buffer.set ((b.startIdx + i) % b.windowSize.toNat) none
    packetsInBuffer := (w.drop (i + 1)).countP Option.isSome }, ?_, ?_, ⟨_, rfl⟩, ?_, ?_⟩
  · have hdec : Rt.decrement ((w.drop (i + 1)).countP Option.isSome + 1) =
        (w.drop (i + 1)).countP Option.isSome := by
      rw [Rt.decrement]
      omega
    simp only [pushSlot, hslot, writeAt_eq hidx, Loops.ok_bind, hcount, hdec, htake, Nat.add_one_ne_zero,
      ↓reduceIte, SafeQueue.push, List.append_assoc]
    rfl
  · intro k hk
    rcases Nat.lt_succ_iff_lt_or_eq.mp hk with hk | rfl
    · exact hfilled k hk
    · exact ⟨p, hi⟩
  · rw [List.length_set, hlen]
  · have hset := rotate_set buffer b.startIdx (i := i) (by rw [hlen, ← hw]; exact hlt) none
    rw [hlen] at hset
    rw [hset, hview, clear_next hlt]

theorem Pushed.stop {s : SelectiveRepeat} {i : ℕ} (h : Pushed b w i s) (hw : w.length = b.windowSize.toNat)
    (hi : w[i]? = some none) :
    pushSlot ((b.startIdx + i) % b.windowSize.toNat) s =
      .ok (.inr (s, (b.startIdx + i) % b.windowSize.toNat)) := by
  simp only [pushSlot, readAt_eq (h.slot hw hi), Loops.ok_bind]
  rfl

theorem Pushed.zero (h : b.Holds w) : Pushed b w 0 b where
  filled k hk := absurd hk (Nat.not_lt_zero k)
  state := ⟨b.buffer, by simp [← h.count]⟩
  length_eq := h.length_eq
  view := h.view

theorem moveStart_eq {s : SelectiveRepeat} {i : ℕ} (hs : s.startIdx < s.windowSize.toNat)
    (hi : i < s.windowSize.toNat) :
    s.moveStart ((s.startIdx + i) % s.windowSize.toNat) = { s with
      earliestExpected := s.earliestExpected + UInt16.ofNat i
      startIdx := (s.startIdx + i) % s.windowSize.toNat } := by
  have hw := s.windowSize.toNat_lt
  by_cases h0 : i = 0
  · subst h0
    have hsame : (s.startIdx + 0) % s.windowSize.toNat = s.startIdx := Nat.mod_eq_of_lt hs
    simp only [moveStart, hsame, ↓reduceIte]
    rw [show UInt16.ofNat 0 = 0 from rfl, UInt16.add_zero]
  · have hne := Loops.offset_ne_start hs (Nat.pos_of_ne_zero h0) hi
    rw [moveStart, if_neg hne]
    by_cases hwrap : s.startIdx + i < s.windowSize.toNat
    · have hmod : (s.startIdx + i) % s.windowSize.toNat = s.startIdx + i := Nat.mod_eq_of_lt hwrap
      have hsub : sizeSub (s.startIdx + i) s.startIdx = i := by
        rw [sizeSub]
        omega
      simp only [hmod, hsub, show s.startIdx < s.startIdx + i by omega, ↓reduceIte]
    · have hmod : (s.startIdx + i) % s.windowSize.toNat = s.startIdx + i - s.windowSize.toNat := by
        rw [Nat.mod_eq_sub_mod (by omega), Nat.mod_eq_of_lt (by omega)]
      have hsub :
          (sizeSub (s.startIdx + i - s.windowSize.toNat) s.startIdx + s.windowSize.toNat) % 2 ^ 64 = i := by
        rw [sizeSub]
        omega
      simp only [hmod, hsub, show ¬ s.startIdx < s.startIdx + i - s.windowSize.toNat by omega, ↓reduceIte]

section UpdateBuffer

variable {run : List DataPacket} {rest : List (Option DataPacket)}

theorem Pushed.eq {s : SelectiveRepeat} (h : Pushed b (run.map some ++ rest) run.length s) :
    ∃ buffer, s = { b with
        shadowBuffer := b.shadowBuffer ++ run
        buffer := buffer
        packetsInBuffer := rest.countP Option.isSome } ∧
      buffer.length = b.windowSize.toNat ∧
      buffer.rotate b.startIdx = List.replicate run.length none ++ rest := by
  have hpushed : ((run.map some ++ rest).take run.length).filterMap id = run := by
    rw [List.take_append_of_le_length (by rw [List.length_map]),
      List.take_of_length_le (by rw [List.length_map]), List.filterMap_map]
    exact List.filterMap_some
  have hdrop : (run.map some ++ rest).drop run.length = rest := by
    rw [List.drop_append, List.drop_of_length_le (by rw [List.length_map]), List.length_map, Nat.sub_self]
    rfl
  obtain ⟨-, ⟨buffer, rfl⟩, hlen, hview⟩ := h
  rw [hdrop] at hview
  exact ⟨buffer, by rw [hpushed, hdrop], hlen, hview⟩

theorem pushSlots_eq (h : b.Holds (run.map some ++ rest)) (hpos : 0 < b.windowSize.toNat)
    (hrest : rest = [] ∨ ∃ t, rest = none :: t) :
    ∃ s r, Loops.doWhile b.startIdx (fun idx => modulo (idx + 1) b.windowSize.toNat) .endlessLoop pushSlot
        (b.windowSize.toNat + 1) b.startIdx b = .ok r ∧
      Pushed b (run.map some ++ rest) run.length s ∧
      r = if rest = [] then .inl s
        else .inr (s, (b.startIdx + run.length) % b.windowSize.toNat) := by
  have hw := h.window_length
  have hrun : ∀ k < run.length, ∃ p, (run.map some ++ rest)[k]? = some (some p) := by
    intro k hk
    refine ⟨run[k], ?_⟩
    rw [List.getElem?_append_left (by rwa [List.length_map]), List.getElem?_map, List.getElem?_eq_getElem hk]
    rfl
  obtain ⟨r, hr, s, hP, hs⟩ := Loops.doWhile_rule .endlessLoop pushSlot
    (I := fun i s => i ≤ run.length ∧ Pushed b (run.map some ++ rest) i s)
    (Q := fun r => ∃ s, Pushed b (run.map some ++ rest) run.length s ∧
      r = if rest = [] then .inl s
        else .inr (s, (b.startIdx + run.length) % b.windowSize.toNat))
    (h.start_lt hpos) (fun i => modulo_pos (a := i + 1) hpos)
    (by
      rintro i hi s ⟨hle, hI⟩
      -- Slot `i` holds a packet of `run`, or it is the first slot of `rest`.
      by_cases hmore : i < run.length
      · obtain ⟨p, hp⟩ := hrun i hmore
        obtain ⟨s', hs', hI'⟩ := hI.push h hp
        exact .inl ⟨s', hs', hmore, hI'⟩
      · obtain rfl : i = run.length := by omega
        have hne : rest ≠ [] := by
          rintro rfl
          rw [List.append_nil, List.length_map] at hw
          omega
        obtain ⟨t, rfl⟩ := hrest.resolve_left hne
        have hnone : (run.map some ++ none :: t)[run.length]? = some none := by
          rw [List.getElem?_append_right (by rw [List.length_map]), List.length_map, Nat.sub_self]
          rfl
        exact .inr ⟨_, hI.stop hw hnone, s, hI, (if_neg hne).symm⟩)
    (by
      rintro s ⟨hle, hI⟩
      have hlen : run.length + rest.length = b.windowSize.toNat := by
        rwa [List.length_append, List.length_map] at hw
      have hlast : rest = [] := List.length_eq_zero_iff.mp (by omega)
      rw [hlast, List.length_nil, Nat.add_zero] at hlen
      exact ⟨s, hlen ▸ hI, (if_pos hlast).symm⟩)
    ⟨Nat.zero_le _, .zero h⟩
  exact ⟨s, r, hr, hP, hs⟩

/-- The window is emptied when no packet is missing, but its start and `earliestExpected_` stay where
they are. -/
theorem updateBuffer_full (h : b.Holds (run.map some)) (hpos : 0 < b.windowSize.toNat) :
    ∃ b', b.updateBuffer = .ok b' ∧ b'.shadowBuffer = b.shadowBuffer ++ run ∧
      b'.windowSize = b.windowSize ∧ b'.canSendAcks = b.canSendAcks ∧
      b'.earliestExpected = b.earliestExpected ∧
      b'.Holds (List.replicate b.windowSize.toNat none) := by
  have hw := h.window_length
  rw [List.length_map] at hw
  have hall : b.Holds (run.map some ++ []) := by rwa [List.append_nil]
  obtain ⟨s, r, hr, hP, hs⟩ := pushSlots_eq hall hpos (.inl rfl)
  rw [if_pos rfl] at hs
  obtain ⟨buffer, rfl, hlen, hview⟩ := hP.eq
  rw [List.append_nil, hw] at hview
  refine ⟨_, by rw [updateBuffer, hr, Loops.ok_bind, hs]; rfl, ?_⟩
  rw [moveStart, if_pos rfl]
  refine ⟨rfl, rfl, rfl, rfl, hlen, h.start_lt, hview, ?_, ?_⟩
  · rw [List.countP_replicate]
    rfl
  · intro k p hp
    simp [List.getElem?_replicate] at hp

theorem updateBuffer_gap (h : b.Holds (run.map some ++ none :: rest)) :
    ∃ b', b.updateBuffer = .ok b' ∧ b'.shadowBuffer = b.shadowBuffer ++ run ∧
      b'.windowSize = b.windowSize ∧ b'.canSendAcks = b.canSendAcks ∧
      b'.earliestExpected = b.earliestExpected + UInt16.ofNat run.length ∧
      b'.Holds (none :: rest ++ List.replicate run.length none) := by
  have hw := h.window_length
  rw [List.length_append, List.length_map, List.length_cons] at hw
  have hpos : 0 < b.windowSize.toNat := by omega
  have hs := h.start_lt hpos
  obtain ⟨s, r, hr, hP, hr'⟩ := pushSlots_eq h hpos (.inr ⟨rest, rfl⟩)
  rw [if_neg (List.cons_ne_nil _ _)] at hr'
  obtain ⟨buffer, rfl, hlen, hview⟩ := hP.eq
  refine ⟨_, by rw [updateBuffer, hr, Loops.ok_bind, hr']; rfl, ?_⟩
  rw [moveStart_eq (s := { b with
    shadowBuffer := b.shadowBuffer ++ run
    buffer := buffer
    packetsInBuffer := (none :: rest).countP Option.isSome }) hs (show run.length < b.windowSize.toNat by omega)]
  refine ⟨rfl, rfl, rfl, rfl, hlen, fun _ => Nat.mod_lt _ hpos, ?_, ?_, ?_⟩
  · have hrot := rotate_advance hview
    rwa [List.length_replicate, hlen] at hrot
  · rw [List.countP_append, List.countP_replicate]
    rfl
  · intro k p hp
    have hk : k < (none :: rest).length := by
      by_contra hge
      rw [List.getElem?_append_right (by omega)] at hp
      simp [List.getElem?_replicate] at hp
    rw [List.getElem?_append_left hk] at hp
    have hseq := h.sequence (run.length + k) p (by
      rw [List.getElem?_append_right (by rw [List.length_map]; omega), List.length_map,
        Nat.add_sub_cancel_left, hp])
    have hsn := p.header.sequenceNumber.toNat_lt
    change _ = (b.earliestExpected + UInt16.ofNat run.length).toNat + k
    rw [UInt16.toNat_add, UInt16.toNat_ofNat', hseq]
    omega

end UpdateBuffer

end ArqBenchmark.Rs.SelectiveRepeat
