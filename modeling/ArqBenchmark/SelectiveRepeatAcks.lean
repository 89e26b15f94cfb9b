import ArqBenchmark.SelectiveRepeatOrder

namespace ArqBenchmark.Rs.Recorded

open SelectiveRepeat

variable {s t : Recorded} {w : List (Option DataPacket)} {first a : SequenceNumber}

def numbersFrom (first : SequenceNumber) (n : ℕ) : List SequenceNumber :=
  (List.range n).map (fun i => first + UInt16.ofNat i)

theorem numbersFrom_append (first : SequenceNumber) (m n : ℕ) :
    numbersFrom first (m + n) =
      numbersFrom first m ++ (List.range n).map (fun i => first + UInt16.ofNat (m + i)) := by
  rw [numbersFrom, List.range_add, List.map_append, List.map_map]
  rfl

/-- The packet acknowledged by `a` has been received, and the packets from `first` up to it have been
pushed in this order. -/
def Delivered (first : SequenceNumber) (t : Recorded) (a : SequenceNumber) : Prop :=
  (∃ p ∈ t.given, p.header.sequenceNumber = a) ∧
    ∃ k, a = first + UInt16.ofNat k ∧ (numbersFrom first (k + 1)).Sublist t.pushedNumbers

/-- Every ACK that `addPacket` returns is for a packet that has been delivered in order. -/
def AckSound (first : SequenceNumber) (s : Recorded) : RsCall → Prop
  | .addPacket packet => ∀ ack b, s.buffer.addPacket packet = .ok (ack, b) →
      ∀ t, s.next (.addPacket packet) = some t → ∀ a, ack = some a → t.pushed ≠ [] ∧ Delivered first t a
  | .getNextPacket => True

section Started

def Started (first : SequenceNumber) (s : Recorded) : Prop :=
  (∃ w, s.buffer.Settled w ∧ ∀ p, some p ∈ w → p ∈ s.given) ∧ (∀ p ∈ s.pushed, p ∈ s.given) ∧
    ∃ n, s.buffer.earliestExpected = first + UInt16.ofNat (n + 1) ∧
      (numbersFrom first (n + 1)).Sublist s.pushedNumbers

theorem Started.delivered (h : Started first s) (ha : a = s.buffer.earliestExpected - 1) :
    s.pushed ≠ [] ∧ Delivered first s a := by
  obtain ⟨-, hgiven, n, he, hsub⟩ := h
  have ha' : a = first + UInt16.ofNat n := by
    rw [ha, he, UInt16.ofNat_add, ← UInt16.add_assoc]
    exact UInt16.add_sub_cancel _ _
  have hmem : a ∈ s.pushedNumbers := by
    refine hsub.subset ?_
    rw [ha', numbersFrom]
    exact List.mem_map_of_mem (List.mem_range.mpr (Nat.lt_succ_self n))
  obtain ⟨p, hp, hpa⟩ := List.mem_map.mp hmem
  exact ⟨List.ne_nil_of_mem hp, ⟨p, hgiven p hp, hpa⟩, n, ha', hsub⟩

variable {p : DataPacket} {run : List DataPacket} {b' : SelectiveRepeat} {w' : List (Option DataPacket)}

theorem numbers_of_run (h : Added s.buffer w p run b' w') :
    run.map (fun p => p.header.sequenceNumber) =
      (List.range run.length).map (fun i => s.buffer.earliestExpected + UInt16.ofNat i) := by
  apply List.ext_getElem
  · rw [List.length_map, List.length_map, List.length_range]
  · intro i hi _
    rw [List.length_map] at hi
    have hsn := h.sequence i _ (List.getElem?_eq_getElem hi)
    have hlt := run[i].header.sequenceNumber.toNat_lt
    rw [List.getElem_map, List.getElem_map, List.getElem_range, ← UInt16.toNat_inj, UInt16.toNat_add,
      UInt16.toNat_ofNat', hsn]
    omega

theorem pushes_started (h : Added s.buffer w p run b' w') (hmem : ∀ x, some x ∈ w → x ∈ s.given)
    (hpushed : ∀ x ∈ s.pushed, x ∈ s.given) {n : ℕ}
    (he : s.buffer.earliestExpected = first + UInt16.ofNat n)
    (hsub : (numbersFrom first n).Sublist s.pushedNumbers)
    (hpos : 0 < n ∨ ¬ s.buffer.Completes p ∧ run ≠ []) :
    Started first { buffer := b', given := s.given ++ [p], pushed := s.pushed ++ run } := by
  have hkept : ∀ x, x ∈ run ∨ some x ∈ w' → x ∈ s.given ++ [p] := by
    intro x hx
    rcases h.kept x hx with ⟨rfl, -⟩ | hold
    · exact List.mem_append_right _ (List.mem_singleton_self _)
    · exact List.mem_append_left _ (hmem x hold)
  refine ⟨⟨w', h.settled, fun x hx => hkept x (.inr hx)⟩, ?_, ?_⟩
  · intro x hx
    rcases List.mem_append.mp hx with hx | hx
    · exact List.mem_append_left _ (hpushed x hx)
    · exact hkept x (.inl hx)
  · have hnumbers :
        ({ buffer := b', given := s.given ++ [p], pushed := s.pushed ++ run } : Recorded).pushedNumbers =
        s.pushedNumbers ++ run.map (fun p => p.header.sequenceNumber) := List.map_append
    by_cases hfull : s.buffer.Completes p
    · obtain ⟨m, rfl⟩ := Nat.exists_eq_succ_of_ne_zero
        (Nat.pos_iff_ne_zero.mp (hpos.resolve_right (fun hc => hc.1 hfull)))
      refine ⟨m, (h.stuck hfull).1.trans he, ?_⟩
      rw [hnumbers]
      exact hsub.trans (List.sublist_append_left _ _)
    · have hmore : 0 < n + run.length := by
        rcases hpos with hpos | ⟨-, hne⟩
        · omega
        · have := List.length_pos_iff.mpr hne
          omega
      obtain ⟨m, hm⟩ := Nat.exists_eq_succ_of_ne_zero (Nat.pos_iff_ne_zero.mp hmore)
      refine ⟨m, ?_, ?_⟩
      · rw [h.moved hfull, he, UInt16.add_assoc, ← UInt16.ofNat_add, hm]
      · rw [hnumbers, ← Nat.succ_eq_add_one, ← hm, numbersFrom_append]
        refine hsub.append ?_
        rw [numbers_of_run h, he]
        simp only [UInt16.add_assoc, ← UInt16.ofNat_add]
        exact List.Sublist.refl _

theorem Started.next {c : RsCall} (h : Started first s) (ht : s.next c = some t) : Started first t := by
  obtain ⟨⟨w, hw, hmem⟩, hpushed, n, he, hsub⟩ := h
  cases c with
  | getNextPacket =>
    obtain rfl := Option.some.inj ht
    exact ⟨⟨w, hw.getNextPacket, hmem⟩, hpushed, n, he, hsub⟩
  | addPacket p =>
    obtain ⟨run, b', w', hadd, hb'⟩ := hw.addPacket p
    obtain rfl := Option.some.inj ((next_addPacket hadd hb').symm.trans ht)
    exact pushes_started hb' hmem hpushed he hsub (.inl (Nat.succ_pos n))

theorem Started.ackSound (h : Started first s) (c : RsCall) : AckSound first s c := by
  cases c with
  | getNextPacket => trivial
  | addPacket p =>
    intro ack b hadd t ht a ha
    have hnext := h.next ht
    obtain ⟨⟨w, hw, -⟩, -⟩ := h
    obtain ⟨run, b', w', hadd', hb'⟩ := hw.addPacket p
    obtain ⟨rfl, rfl⟩ := Prod.mk.inj (Except.ok.inj (hadd'.symm.trans hadd))
    obtain rfl := Option.some.inj ((next_addPacket hadd' hb').symm.trans ht)
    refine hnext.delivered ?_
    rw [SelectiveRepeat.ack] at ha
    split at ha
    · exact (Option.some.inj ha).symm
    · cases ha

end Started

section Fresh

variable {windowSize : UInt16}

def packetsOf (calls : List RsCall) : List DataPacket :=
  calls.filterMap (fun | .addPacket packet => some packet | .getNextPacket => none)

def inFirstWindow (windowSize : UInt16) (first : SequenceNumber) (p : DataPacket) : Bool :=
  first.toNat ≤ p.header.sequenceNumber.toNat &&
    p.header.sequenceNumber.toNat < first.toNat + windowSize.toNat

structure Fresh (windowSize : UInt16) (first : SequenceNumber) (s : Recorded) : Prop where
  silent : s.buffer.canSendAcks = false
  expected : s.buffer.earliestExpected = first
  size : s.buffer.windowSize = windowSize
  none_stored : s.buffer.packetsInBuffer = 0
  none_waiting : s.buffer.shadowBuffer = []
  none_pushed : s.pushed = []
  settled : ∃ w, s.buffer.Settled w ∧ ∀ p, some p ∉ w

theorem new_fresh (windowSize : UInt16) (first : SequenceNumber) :
    Fresh windowSize first (.new windowSize first) where
  silent := rfl
  expected := rfl
  size := rfl
  none_stored := rfl
  none_waiting := rfl
  none_pushed := rfl
  settled := ⟨_, new_settled windowSize first, fun p hp => by simp [List.mem_replicate] at hp⟩

theorem Fresh.outside_iff (h : Fresh windowSize first s) {p : DataPacket} :
    s.buffer.outsideWindow p.header.sequenceNumber = !inFirstWindow windowSize first p := by
  rw [Bool.eq_iff_iff, outsideWindow_iff, h.expected, h.size, inFirstWindow, Bool.not_eq_true',
    Bool.and_eq_false_iff, decide_eq_false_iff_not, decide_eq_false_iff_not]
  omega

theorem Fresh.ignores (h : Fresh windowSize first s) {p : DataPacket}
    (hp : inFirstWindow windowSize first p = false) :
    AckSound first s (.addPacket p) ∧
      ∃ t, s.next (.addPacket p) = some t ∧ Fresh windowSize first t := by
  have hadd : s.buffer.addPacket p = .ok (none, s.buffer) := by
    rw [addPacket_outside (by rw [h.outside_iff, hp, Bool.not_false]), SelectiveRepeat.ack, h.silent]
    rfl
  constructor
  · intro ack b hb t _ a ha
    obtain ⟨rfl, -⟩ := Prod.mk.inj (Except.ok.inj (hadd.symm.trans hb))
    cases ha
  · refine ⟨{ s with given := s.given ++ [p] }, ?_, h.silent, h.expected, h.size, h.none_stored,
      h.none_waiting, h.none_pushed, h.settled⟩
    simp only [Recorded.next, hadd, List.drop_length, List.append_nil]

theorem Fresh.getNextPacket (h : Fresh windowSize first s) : s.next .getNextPacket = some s := by
  obtain ⟨b, given, pushed⟩ := s
  have hnone : b.getNextPacket.2 = b := by
    have hempty : b.shadowBuffer = [] := h.none_waiting
    rw [SelectiveRepeat.getNextPacket, hempty, SafeQueue.tryPop, ← hempty]
  simp only [Recorded.next, hnone]

theorem Fresh.added (hw : 0 < windowSize.toNat) (h : Fresh windowSize first s) {p : DataPacket}
    (hp : inFirstWindow windowSize first p = true) :
    ∃ w run b' w', Added s.buffer w p run b' w' ∧ (∀ x, some x ∉ w) ∧
      s.buffer.addPacket p = .ok (some (b'.earliestExpected - 1), b') ∧
      s.next (.addPacket p) = some { buffer := b', given := s.given ++ [p], pushed := s.pushed ++ run } ∧
      (run ≠ [] ↔ p.header.sequenceNumber = first) := by
  obtain ⟨w, hsettled, hfree⟩ := h.settled
  obtain ⟨run, b', w', hadd, hb'⟩ := hsettled.addPacket p
  have hsends : b'.canSendAcks = true := by
    rw [hb'.sends, h.outside_iff, hp]
    simp
  have hack : b'.ack = some (b'.earliestExpected - 1) := by
    rw [SelectiveRepeat.ack, if_pos hsends]
  have hpushes := hb'.pushes (by rwa [h.size])
  rw [h.expected] at hpushes
  exact ⟨w, run, b', w', hb', hfree, hack ▸ hadd, next_addPacket hadd hb', hpushes⟩

theorem Fresh.completes_iff (h : Fresh windowSize first s) (p : DataPacket) :
    s.buffer.Completes p ↔ p.header.sequenceNumber = first ∧ windowSize.toNat = 1 := by
  rw [Completes, h.expected, h.none_stored, h.size]
  exact and_congr_right' (by omega)

theorem Fresh.starts (hw : 0 < windowSize.toNat) (h : Fresh windowSize first s) {p : DataPacket}
    (hp : inFirstWindow windowSize first p = true) (hfirst : p.header.sequenceNumber = first)
    (htwo : 2 ≤ windowSize.toNat) :
    AckSound first s (.addPacket p) ∧ ∀ t, s.next (.addPacket p) = some t → Started first t := by
  obtain ⟨w, run, b', w', hb', hfree, hadd, hstep, hpushes⟩ := h.added hw hp
  have hgap : ¬ s.buffer.Completes p := by
    rw [h.completes_iff]
    omega
  have hstarted : Started first { buffer := b', given := s.given ++ [p], pushed := s.pushed ++ run } :=
    pushes_started (n := 0) hb' (fun x hx => absurd hx (hfree x)) (by simp [h.none_pushed])
      (by rw [h.expected]; exact (UInt16.add_zero first).symm) (List.nil_sublist _)
      (.inr ⟨hgap, hpushes.mpr hfirst⟩)
  refine ⟨?_, fun t ht => Option.some.inj (hstep.symm.trans ht) ▸ hstarted⟩
  intro ack b hb t ht a ha
  obtain ⟨rfl, rfl⟩ := Prod.mk.inj (Except.ok.inj (hadd.symm.trans hb))
  obtain rfl := Option.some.inj (hstep.symm.trans ht)
  exact hstarted.delivered (Option.some.inj ha).symm

theorem Fresh.of_ackSound (hw : 0 < windowSize.toNat) (h : Fresh windowSize first s) {p : DataPacket}
    (hp : inFirstWindow windowSize first p = true) (hsound : AckSound first s (.addPacket p)) :
    p.header.sequenceNumber = first ∧ 2 ≤ windowSize.toNat := by
  obtain ⟨w, run, b', w', hb', -, hadd, hstep, hpushes⟩ := h.added hw hp
  obtain ⟨hpushed, -, k, hk, hsub⟩ := hsound _ _ hadd _ hstep _ rfl
  have hfirst : p.header.sequenceNumber = first := by
    refine hpushes.mp ?_
    rintro rfl
    rw [h.none_pushed] at hpushed
    exact hpushed rfl
  refine ⟨hfirst, ?_⟩
  by_contra hone
  -- The window of one packet has been emptied without moving, so the ACK is for `first - 1`.
  obtain ⟨he, hlen⟩ := hb'.stuck ((h.completes_iff p).mpr ⟨hfirst, by omega⟩)
  have hle := hsub.length_le
  rw [pushedNumbers, List.length_map, numbersFrom, List.length_map, List.length_range, h.none_pushed,
    List.nil_append, hlen, h.size] at hle
  obtain rfl : k = 0 := by omega
  have hlt := first.toNat_lt
  have hone' : (1 : UInt16).toNat = 1 := rfl
  rw [he, h.expected, ← UInt16.toNat_inj, UInt16.toNat_sub, UInt16.toNat_add, UInt16.toNat_ofNat', hone'] at hk
  omega

/-- The ACKs are sound exactly when the first packet that falls into the first window is the expected
one and the window is larger than one packet. -/
theorem acks_sound_iff (windowSize : UInt16) (hw : 0 < windowSize.toNat) (first : SequenceNumber)
    (calls : List RsCall) :
    Runs.AlongRun next (AckSound first) (.new windowSize first) calls ↔
      ∀ p, (packetsOf calls).find? (inFirstWindow windowSize first) = some p →
        p.header.sequenceNumber = first ∧ 2 ≤ windowSize.toNat := by
  have key : ∀ s, Fresh windowSize first s → (Runs.AlongRun next (AckSound first) s calls ↔
      ∀ p, (packetsOf calls).find? (inFirstWindow windowSize first) = some p →
        p.header.sequenceNumber = first ∧ 2 ≤ windowSize.toNat) := by
    induction calls with
    | nil => exact fun s _ => iff_of_true trivial (fun p hp => by cases hp)
    | cons c calls ih =>
      intro s hs
      cases c with
      | getNextPacket =>
        rw [Runs.AlongRun, hs.getNextPacket]
        exact ⟨fun h => (ih s hs).mp (h.2 s rfl),
          fun h => ⟨trivial, fun t ht => Option.some.inj ht ▸ (ih s hs).mpr h⟩⟩
      | addPacket p =>
        have hpackets : packetsOf (.addPacket p :: calls) = p :: packetsOf calls := rfl
        rw [hpackets, List.find?_cons]
        cases hp : inFirstWindow windowSize first p with
        | false =>
          obtain ⟨hsound, t, ht, hfresh⟩ := hs.ignores hp
          rw [Runs.AlongRun, ht]
          exact ⟨fun h => (ih t hfresh).mp (h.2 t rfl),
            fun h => ⟨hsound, fun u hu => Option.some.inj hu ▸ (ih t hfresh).mpr h⟩⟩
        | true =>
          constructor
          · rintro ⟨hsound, -⟩ x hx
            obtain rfl := Option.some.inj hx
            exact hs.of_ackSound hw hp hsound
          · intro h
            obtain ⟨hfirst, htwo⟩ := h p rfl
            obtain ⟨hsound, hstarted⟩ := hs.starts hw hp hfirst htwo
            exact ⟨hsound, fun t ht => Runs.alongRun_of_invariant (fun _ c hc => hc.ackSound c)
              (fun _ _ _ hc hn => hc.next hn) (hstarted t ht) calls⟩
  exact key _ (new_fresh windowSize first)

theorem acks_sound_iff_run :
    Runs.AlongRun next (AckSound 0) (.new 2 0)
      [.addPacket (samplePacket 7), .addPacket (samplePacket 0), .addPacket (samplePacket 1),
        .getNextPacket] := by
  refine (acks_sound_iff 2 (by decide) 0 _).mpr (fun p hp => ?_)
  obtain rfl := Option.some.inj hp
  decide

theorem early_packet_acked :
    ¬ Runs.AlongRun next (AckSound 0) (.new 2 0) [.addPacket (samplePacket 1)] := by
  rintro ⟨hsound, -⟩
  exact (hsound _ _ rfl _ rfl 65535 (by decide)).1 (by decide)

end Fresh

end ArqBenchmark.Rs.Recorded
