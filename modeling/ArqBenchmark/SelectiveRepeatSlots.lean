import ArqBenchmark.SelectiveRepeatOrder

namespace ArqBenchmark.Rs.SelectiveRepeat

open RotatedRing

variable {b b' : SelectiveRepeat} {w : List (Option DataPacket)} {p : DataPacket}

def OnlyCleared (b b' : SelectiveRepeat) : Prop :=
  ∀ (j : ℕ) (x : DataPacket), b'.buffer[j]? = some (some x) → b.buffer[j]? = some (some x)

theorem getElem?_of_writeAt {α : Type} {buffer buffer' : List α} {i j : ℕ} {a x : α}
    (h : writeAt buffer i a = .ok buffer') (hx : buffer'[j]? = some x) :
    buffer[j]? = some x ∨ i = j ∧ x = a := by
  obtain ⟨hi, rfl⟩ := writeAt_eq_ok.mp h
  by_cases hij : i = j
  · subst hij
    rw [List.getElem?_set_self hi] at hx
    exact .inr ⟨rfl, (Option.some.inj hx).symm⟩
  · rw [List.getElem?_set_ne hij] at hx
    exact .inl hx

theorem pushSlot_onlyCleared {idx : ℕ} {s s' : SelectiveRepeat} (h : pushSlot idx s = .ok (.inl s')) :
    OnlyCleared s s' := by
  intro j x hx
  obtain ⟨slot, -, hslot⟩ := Loops.bind_eq_ok.mp h
  cases slot with
  | none => cases hslot
  | some y =>
    obtain ⟨buffer, hwrite, hs⟩ := Loops.bind_eq_ok.mp hslot
    split at hs
    · cases hs
    · cases hs
      rcases getElem?_of_writeAt hwrite hx with hx | ⟨-, hx⟩
      · exact hx
      · cases hx

theorem pushSlot_leaves {idx : ℕ} {s : SelectiveRepeat} {r : SelectiveRepeat × ℕ}
    (h : pushSlot idx s = .ok (.inr r)) : r.1 = s := by
  obtain ⟨slot, -, hslot⟩ := Loops.bind_eq_ok.mp h
  cases slot with
  | none =>
    cases hslot
    rfl
  | some y =>
    obtain ⟨buffer, -, hs⟩ := Loops.bind_eq_ok.mp hslot
    split at hs <;> cases hs

theorem moveStart_buffer (b : SelectiveRepeat) (newStartIdx : ℕ) :
    (b.moveStart newStartIdx).buffer = b.buffer := by
  unfold moveStart
  split <;> rfl

theorem updateBuffer_onlyCleared (h : b.updateBuffer = .ok b') : OnlyCleared b b' := by
  obtain ⟨r, hloop, hr⟩ := Loops.bind_eq_ok.mp h
  have hkeeps := Loops.doWhile_keeps (K := OnlyCleared b)
    (L := fun r : SelectiveRepeat × ℕ => OnlyCleared b r.1)
    (fun idx s s' hk hs j x hx => hk j x (pushSlot_onlyCleared hs j x hx))
    (fun idx s r hk hs => pushSlot_leaves hs ▸ hk) hloop (fun _ _ hx => hx)
  intro j x hx
  cases r with
  | inl s =>
    cases hr
    rw [moveStart_buffer] at hx
    exact hkeeps j x hx
  | inr r =>
    cases hr
    rw [moveStart_buffer] at hx
    exact hkeeps j x hx

theorem addPacket_slot {ack : Option SequenceNumber} (h : b.addPacket p = .ok (ack, b')) {j : ℕ}
    {x : DataPacket} (hx : b'.buffer[j]? = some (some x)) :
    b.buffer[j]? = some (some x) ∨ x = p ∧ b.buffer[j]? = some none := by
  unfold addPacket at h
  simp only at h
  split at h
  · cases h
    exact .inl hx
  · obtain ⟨slot, hread, hslot⟩ := Loops.bind_eq_ok.mp h
    cases slot with
    | some y =>
      cases hslot
      exact .inl hx
    | none =>
      obtain ⟨buffer, hwrite, hs⟩ := Loops.bind_eq_ok.mp hslot
      obtain ⟨s, hupdate, hs'⟩ := Loops.bind_eq_ok.mp hs
      cases hs'
      rcases getElem?_of_writeAt hwrite (updateBuffer_onlyCleared hupdate j x hx) with hsame | ⟨rfl, hnew⟩
      · exact .inl hsame
      · exact .inr ⟨Option.some.inj hnew, readAt_eq_ok.mp hread⟩

def next (b : SelectiveRepeat) : RsCall → Option SelectiveRepeat
  | .addPacket packet => (b.addPacket packet).toOption.map Prod.snd
  | .getNextPacket => some b.getNextPacket.2

/-- The packet in slot `j` is the first one that came after the slot was last empty, and it has been there
since. -/
def FirstReceived (start : SelectiveRepeat) (calls : List RsCall) (j : ℕ) (p : DataPacket) : Prop :=
  ∃ before after, calls = before ++ .addPacket p :: after ∧
    (∃ b, Runs.replay next start before = some b ∧ b.buffer[j]? = some none) ∧
    ∀ more, more <+: after → ∃ b, Runs.replay next start (before ++ .addPacket p :: more) = some b ∧
      b.buffer[j]? = some (some p)

variable {start : SelectiveRepeat} {calls : List RsCall} {c : RsCall}

theorem next_slot (h : b.next c = some b') {j : ℕ} {x : DataPacket} (hx : b'.buffer[j]? = some (some x)) :
    b.buffer[j]? = some (some x) ∨ c = .addPacket x ∧ b.buffer[j]? = some none := by
  cases c with
  | getNextPacket =>
    cases h
    exact .inl hx
  | addPacket p =>
    obtain ⟨⟨ack, b₁⟩, hadd, rfl⟩ := Option.map_eq_some_iff.mp h
    have hok : b.addPacket p = .ok (ack, b₁) := by
      cases hres : b.addPacket p with
      | error fault =>
        rw [hres] at hadd
        cases hadd
      | ok r =>
        rw [hres] at hadd
        exact congrArg Except.ok (Option.some.inj hadd)
    rcases addPacket_slot hok hx with hsame | ⟨rfl, hfree⟩
    · exact .inl hsame
    · exact .inr ⟨rfl, hfree⟩

theorem firstReceived_concat (hb : Runs.replay next start calls = some b) (hc : b.next c = some b') {j : ℕ}
    {p : DataPacket} (ih : b.buffer[j]? = some (some p) → FirstReceived start calls j p)
    (hp : b'.buffer[j]? = some (some p)) : FirstReceived start (calls ++ [c]) j p := by
  have hnext := Runs.replay_concat hb hc
  -- The packet was there before the call, or the call has put it there.
  rcases next_slot hc hp with hsame | ⟨rfl, hfree⟩
  · obtain ⟨before, after, rfl, hempty, hheld⟩ := ih hsame
    refine ⟨before, after ++ [c], ?_, hempty, fun more hmore => ?_⟩
    · rw [List.append_assoc, List.cons_append]
    · rcases List.prefix_concat_iff.mp hmore with rfl | hmore
      · rw [List.append_assoc, List.cons_append] at hnext
        exact ⟨b', hnext, hp⟩
      · exact hheld more hmore
  · refine ⟨calls, [], rfl, ⟨b, hb, hfree⟩, fun more hmore => ?_⟩
    obtain rfl := List.prefix_nil.mp hmore
    exact ⟨b', hnext, hp⟩

theorem Settled.next (h : b.Settled w) (c : RsCall) :
    ∃ b' w', b.next c = some b' ∧ b'.Settled w' ∧ b'.windowSize = b.windowSize := by
  cases c with
  | getNextPacket => exact ⟨_, w, rfl, h.getNextPacket, rfl⟩
  | addPacket p =>
    obtain ⟨run, b', w', hadd, hb'⟩ := h.addPacket p
    refine ⟨b', w', ?_, hb'.settled, hb'.size⟩
    rw [SelectiveRepeat.next, hadd]
    rfl

theorem replay_settled (windowSize : UInt16) (first : SequenceNumber) (calls : List RsCall) :
    ∃ b w, Runs.replay next (new windowSize first) calls = some b ∧ b.Settled w ∧ b.windowSize = windowSize ∧
      ∀ j p, b.buffer[j]? = some (some p) → FirstReceived (new windowSize first) calls j p := by
  -- The last call is made in a state that is settled already.
  induction calls using List.reverseRecOn with
  | nil =>
    refine ⟨_, _, rfl, new_settled windowSize first, rfl, fun j p hp => ?_⟩
    simp [new, List.getElem?_replicate] at hp
  | append_singleton calls c ih =>
    obtain ⟨b, w, hb, hw, hsize, hfirst⟩ := ih
    obtain ⟨b', w', hc, hw', hsize'⟩ := hw.next c
    exact ⟨b', w', Runs.replay_concat hb hc, hw', hsize'.trans hsize,
      fun j p hp => firstReceived_concat hb hc (hfirst j p) hp⟩

section Window

variable (h : b.Settled w)

include h

theorem Settled.slot_eq {k : ℕ} (hk : k < b.windowSize.toNat) :
    b.buffer[(b.startIdx + k) % b.windowSize.toNat]? = w[k]? := by
  rw [← h.view, ← h.length_eq]
  exact getElem?_offset _ _ (by rwa [h.length_eq])

theorem Settled.mem_iff (slot : Option DataPacket) : slot ∈ b.buffer ↔ slot ∈ w := by
  rw [← h.view, List.mem_rotate]

theorem Settled.first_empty (hpos : 0 < b.windowSize.toNat) : b.buffer[b.startIdx]? = some none := by
  have hlt : 0 < w.length := by rwa [h.window_length]
  have hslot := h.slot_eq hpos
  rw [Nat.add_zero, Nat.mod_eq_of_lt (h.start_lt hpos), List.getElem?_eq_getElem hlt] at hslot
  rw [hslot]
  cases hfirst : w[0] with
  | none => rfl
  | some p => exact absurd (by rw [List.getElem?_eq_getElem hlt, hfirst]) (h.first_missing p)

theorem Settled.count_eq : b.packetsInBuffer = b.buffer.countP Option.isSome := by
  rw [h.count, ← h.view]
  exact (List.rotate_perm b.buffer b.startIdx).countP_eq _

theorem Settled.packetsPending_iff :
    b.packetsPending = true ↔ (∃ p, some p ∈ b.buffer) ∨ b.shadowBuffer ≠ [] := by
  rw [packetsPending, Bool.or_eq_true, decide_eq_true_eq, h.count_eq, List.countP_pos_iff]
  apply or_congr
  · constructor
    · rintro ⟨slot, hslot, hsome⟩
      obtain ⟨p, rfl⟩ := Option.isSome_iff_exists.mp hsome
      exact ⟨p, hslot⟩
    · rintro ⟨p, hp⟩
      exact ⟨some p, hp, rfl⟩
  · cases b.shadowBuffer <;> simp

theorem Settled.takes {k : ℕ} (hk : k < b.windowSize.toNat)
    (hp : p.header.sequenceNumber.toNat = b.earliestExpected.toNat + k)
    (hfree : b.buffer[(b.startIdx + k) % b.windowSize.toNat]? = some none) :
    ∃ ack b', b.addPacket p = .ok (ack, b') ∧ (p ∈ b'.shadowBuffer ∨ some p ∈ b'.buffer) := by
  rw [h.slot_eq hk] at hfree
  obtain ⟨run, b', w', hadd, hb'⟩ := h.addPacket p
  refine ⟨_, b', hadd, ?_⟩
  rw [hb'.settled.mem_iff, hb'.shadow]
  rcases hb'.stored (h.filled hp hfree).1 with hrun | hstored
  · exact .inl (List.mem_append_right _ hrun)
  · exact .inr hstored

end Window

structure WindowKept (start : SelectiveRepeat) (calls : List RsCall) (size : ℕ)
    (b : SelectiveRepeat) : Prop where
  length_eq : b.buffer.length = size
  startIdx_lt : b.startIdx < size
  sequence : ∀ k < size, ∀ p, b.buffer[(b.startIdx + k) % size]? = some (some p) →
    p.getHeader.sequenceNumber.toNat = b.earliestExpected.toNat + k
  first_received : ∀ j p, b.buffer[j]? = some (some p) → FirstReceived start calls j p
  takes : ∀ k < size, ∀ p, p.getHeader.sequenceNumber.toNat = b.earliestExpected.toNat + k →
    b.buffer[(b.startIdx + k) % size]? = some none →
    ∃ ack b', b.addPacket p = .ok (ack, b') ∧ (p ∈ b'.shadowBuffer ∨ some p ∈ b'.buffer)
  first_empty : b.buffer[b.startIdx]? = some none
  count : b.packetsInBuffer = b.buffer.countP Option.isSome
  outside : ∀ p, p.getHeader.sequenceNumber.toNat < b.earliestExpected.toNat ∨
    b.earliestExpected.toNat + size ≤ p.getHeader.sequenceNumber.toNat → ∃ ack, b.addPacket p = .ok (ack, b)
  packetsPending_iff : b.packetsPending = true ↔ (∃ p, some p ∈ b.buffer) ∨ b.shadowBuffer ≠ []

theorem Settled.windowKept (h : b.Settled w) (hpos : 0 < b.windowSize.toNat)
    (hfirst : ∀ j p, b.buffer[j]? = some (some p) → FirstReceived start calls j p) :
    WindowKept start calls b.windowSize.toNat b where
  length_eq := h.length_eq
  startIdx_lt := h.start_lt hpos
  sequence k hk p hp := by
    rw [h.slot_eq hk] at hp
    exact h.sequence k p hp
  first_received := hfirst
  takes k hk p hp hfree := h.takes hk hp hfree
  first_empty := h.first_empty hpos
  count := h.count_eq
  outside p hp := ⟨b.ack, addPacket_outside (outsideWindow_iff.mpr hp)⟩
  packetsPending_iff := h.packetsPending_iff

theorem window_kept (windowSize : UInt16) (hw : 0 < windowSize.toNat) (first : SequenceNumber)
    (calls : List RsCall) :
    ∃ b, Runs.replay next (new windowSize first) calls = some b ∧
      WindowKept (new windowSize first) calls windowSize.toNat b := by
  obtain ⟨b, w, hb, hsettled, rfl, hfirst⟩ := replay_settled windowSize first calls
  exact ⟨b, hb, hsettled.windowKept hw hfirst⟩

/-- SN 65535 is the last one inside the window, and the second packet with this number is not stored. -/
theorem window_kept_run :
    ∃ b, Runs.replay next (new 2 65534) [.addPacket (Recorded.samplePacket 65535), .getNextPacket,
        .addPacket ⟨⟨1, 65535, 0⟩, [1, 255, 255, 0, 0]⟩] = some b ∧
      WindowKept (new 2 65534) [.addPacket (Recorded.samplePacket 65535), .getNextPacket,
        .addPacket ⟨⟨1, 65535, 0⟩, [1, 255, 255, 0, 0]⟩] 2 b :=
  window_kept 2 (by decide) 65534 _

end ArqBenchmark.Rs.SelectiveRepeat
