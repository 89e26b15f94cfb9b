import ArqBenchmark.ReceiverContents

namespace ArqBenchmark

open ResequencingView DataPacket

/-- The sequence number that an output buffer that expects `next` expects after it has been offered the
packets of `pending`. -/
def drain (next : ℕ) (pending : List DataPacket) : ℕ :=
  pending.foldl (fun m p => if p.header.sequenceNumber = UInt16.ofNat m then m + 1 else m) next

theorem drain_append (next : ℕ) (xs ys : List DataPacket) :
    drain next (xs ++ ys) = drain (drain next xs) ys := List.foldl_append

theorem drain_cons (next : ℕ) (x : DataPacket) (xs : List DataPacket) :
    drain next (x :: xs) =
      drain (if x.header.sequenceNumber = UInt16.ofNat next then next + 1 else next) xs := rfl

theorem drain_run {run : List DataPacket} {first next : ℕ}
    (hrun : ∀ i x, run[i]? = some x → x.header.sequenceNumber.toNat = first + i) (hle : first ≤ next) :
    first + run.length ≤ drain next run := by
  induction run generalizing first next with
  | nil => exact hle
  | cons x run ih =>
    have hx : x.header.sequenceNumber.toNat = first := hrun 0 x rfl
    have htail : ∀ i y, run[i]? = some y → y.header.sequenceNumber.toNat = first + 1 + i := by
      intro i y hy
      rw [hrun (i + 1) y hy]
      omega
    rw [drain_cons, List.length_cons, ← Nat.add_assoc, Nat.add_right_comm]
    refine ih htail ?_
    by_cases heq : first = next
    · have hmatch : x.header.sequenceNumber = UInt16.ofNat next := by
        rw [← heq, ← hx, UInt16.ofNat_toNat]
      rw [if_pos hmatch, heq]
    · split <;> omega

variable {R : Type} [ResequencingView R]

/-- The packets go to the output buffer in the order in which they were sent, and none is left out: an
empty resequencing buffer has handed over all those below its frontier. -/
structure RxOrdered (sent rsAccepted obAccepted : List DataPacket) (r : Receiver R) : Prop where
  holds : Holds r.resequencingBuffer
  stored : ∀ p, p ∈ window r.resequencingBuffer ∨ p ∈ pending r.resequencingBuffer →
    Received sent p ∧ p ∈ rsAccepted
  received : ∀ p ∈ rsAccepted, Received sent p
  frontier_le : frontier r.resequencingBuffer ≤ sent.length
  covered : ∀ i < frontier r.resequencingBuffer, ∃ p ∈ rsAccepted, p.header.sequenceNumber.toNat = i
  output : ∀ (i : ℕ) (p : DataPacket), obAccepted[i]? = some p → ∃ q, sent[i]? = some q ∧ p.IsCopy q
  expected : r.outputBuffer.nextSequenceNumber = UInt16.ofNat obAccepted.length
  drained : frontier r.resequencingBuffer ≤ drain obAccepted.length (pending r.resequencingBuffer)
  waits : r.resequencingThread = .loop ∨ r.resequencingThread = .exited → pending r.resequencingBuffer = []

variable {sent rsAccepted obAccepted : List DataPacket} {r r' : Receiver R}

theorem RxOrdered.mono (h : RxOrdered sent rsAccepted obAccepted r) (more : List DataPacket) :
    RxOrdered (sent ++ more) rsAccepted obAccepted r where
  holds := h.holds
  stored p hp := ⟨(h.stored p hp).1.mono, (h.stored p hp).2⟩
  received p hp := (h.received p hp).mono
  frontier_le := by
    rw [List.length_append]
    exact Nat.le_trans h.frontier_le (Nat.le_add_right _ _)
  covered := h.covered
  output i p hp := by
    obtain ⟨q, hq, hcopy⟩ := h.output i p hp
    have hi : i < sent.length := (List.getElem?_eq_some_iff.mp hq).1
    exact ⟨q, by rw [List.getElem?_append_left hi, hq], hcopy⟩
  expected := h.expected
  drained := h.drained
  waits := h.waits

theorem RxOrdered.delivered_le (h : RxOrdered sent rsAccepted obAccepted r) :
    obAccepted.length ≤ sent.length := by
  by_contra hlt
  have hi : sent.length < obAccepted.length := Nat.lt_of_not_le hlt
  obtain ⟨q, hq, -⟩ := h.output _ _ (List.getElem?_eq_getElem hi)
  exact absurd (List.getElem?_eq_some_iff.mp hq).1 (Nat.lt_irrefl _)

theorem RxOrdered.at_point (h : RxOrdered sent rsAccepted obAccepted r)
    (hb : r'.resequencingBuffer = r.resequencingBuffer)
    (ho : r'.outputBuffer.nextSequenceNumber = r.outputBuffer.nextSequenceNumber)
    (hw : r'.resequencingThread = .loop ∨ r'.resequencingThread = .exited →
      r.resequencingThread = .loop ∨ r.resequencingThread = .exited) :
    RxOrdered sent rsAccepted obAccepted r' where
  holds := hb ▸ h.holds
  stored := hb ▸ h.stored
  received := h.received
  frontier_le := hb ▸ h.frontier_le
  covered := hb ▸ h.covered
  output := h.output
  expected := ho ▸ h.expected
  drained := hb ▸ h.drained
  waits hp := hb ▸ h.waits (hw hp)

theorem RxOrdered.kept [ResequencingBuffer R] (h : RxOrdered sent rsAccepted obAccepted r) {p : DataPacket}
    (hp : Received sent p) {ack : Option SequenceNumber} {b : R} {run : List DataPacket}
    (htaken : Taken r.resequencingBuffer p ack b run) {x : DataPacket} (hx : x ∈ run ∨ x ∈ window b) :
    Received sent x ∧
      x ∈ rsAccepted ++ (if ResequencingBuffer.accepts r.resequencingBuffer p then some p else none).toList := by
  rcases htaken.kept x hx with ⟨rfl, haccepts⟩ | hold
  · refine ⟨hp, List.mem_append_right _ ?_⟩
    rw [if_pos haccepts]
    exact List.mem_singleton_self x
  · exact ⟨(h.stored x (.inl hold)).1, List.mem_append_left _ (h.stored x (.inl hold)).2⟩

section Sent

variable (hnumber : ∀ i p, sent[i]? = some p → p.header.sequenceNumber = UInt16.ofNat i)
  (hlen : sent.length ≤ 65535)

include hnumber hlen

theorem Received.number {p : DataPacket} (h : Received sent p) :
    ∃ q, sent[p.header.sequenceNumber.toNat]? = some q ∧ p.IsCopy q := by
  obtain ⟨q, hq, hcopy⟩ := h
  obtain ⟨i, hi⟩ := List.getElem?_of_mem hq
  have hlt : i < sent.length := (List.getElem?_eq_some_iff.mp hi).1
  refine ⟨q, ?_, hcopy⟩
  rw [hcopy.header_eq, hnumber i q hi, toNat_ofNat_of_lt (by omega), hi]

theorem Received.number_lt {p : DataPacket} (h : Received sent p) :
    p.header.sequenceNumber.toNat < sent.length := by
  obtain ⟨q, hq, -⟩ := h.number hnumber hlen
  exact (List.getElem?_eq_some_iff.mp hq).1

theorem RxOrdered.output_concat (h : RxOrdered sent rsAccepted obAccepted r) {p : DataPacket}
    (hp : Received sent p)
    (hmatch : p.header.sequenceNumber = UInt16.ofNat obAccepted.length) (i : ℕ) (x : DataPacket)
    (hx : (obAccepted ++ [p])[i]? = some x) : ∃ q, sent[i]? = some q ∧ x.IsCopy q := by
  by_cases hi : i < obAccepted.length
  · rw [List.getElem?_append_left hi] at hx
    exact h.output i x hx
  · have hle := h.delivered_le
    obtain ⟨q, hq, hcopy⟩ := hp.number hnumber hlen
    rw [hmatch, toNat_ofNat_of_lt (by omega)] at hq
    rw [List.getElem?_append_right (by omega)] at hx
    obtain ⟨hlt, rfl⟩ := List.getElem?_eq_some_iff.mp hx
    have hlt' : i - obAccepted.length < 1 := hlt
    obtain rfl : i = obAccepted.length := by omega
    exact ⟨q, hq, by simpa using hcopy⟩

variable [ResequencingBuffer R]

theorem RxOrdered.run_le (h : RxOrdered sent rsAccepted obAccepted r) {p : DataPacket} (hp : Received sent p)
    {ack : Option SequenceNumber} {b : R} {run : List DataPacket}
    (htaken : Taken r.resequencingBuffer p ack b run) :
    frontier r.resequencingBuffer + run.length ≤ sent.length := by
  rcases List.eq_nil_or_concat run with rfl | ⟨front, last, rfl⟩
  · exact h.frontier_le
  · have hnum := htaken.in_order front.length last (by simp)
    have hlt := (h.kept hp htaken (.inl (by simp : last ∈ front.concat last))).1.number_lt hnumber hlen
    rw [List.length_concat]
    omega

variable [LawfulResequencing R]

theorem RxOrdered.added (h : RxOrdered sent rsAccepted obAccepted r) {p : DataPacket} (hp : Received sent p)
    {ack : Option SequenceNumber} {b : R}
    (hadd : ResequencingBuffer.addPacket r.resequencingBuffer p = .ok (ack, b))
    {point : ResequencingPoint} (hpoint : point ≠ .loop ∧ point ≠ .exited) :
    RxOrdered sent (rsAccepted ++ (if ResequencingBuffer.accepts r.resequencingBuffer p then some p else none).toList)
      obAccepted { r with resequencingBuffer := b, resequencingThread := point } ∧
    frontier r.resequencingBuffer ≤ frontier b ∧
    ∀ a ∈ ack, a.toNat < frontier b ∨ early R ∧ a = 65535 := by
  obtain ⟨run, htaken⟩ := LawfulResequencing.addPacket h.holds hadd
  have hrun := h.run_le hnumber hlen hp htaken
  have hbound : frontier r.resequencingBuffer + run.length ≤ 65535 := Nat.le_trans hrun hlen
  obtain ⟨hmono, hle⟩ := htaken.frontier_le hbound
  refine ⟨⟨htaken.holds hbound, ?_, ?_, Nat.le_trans hle hrun, ?_, h.output, h.expected, ?_, ?_⟩, hmono,
    htaken.ack_sound hbound⟩
  · rintro x (hx | hx)
    · exact h.kept hp htaken (.inr hx)
    · rw [htaken.pending_eq] at hx
      rcases List.mem_append.mp hx with hx | hx
      · exact ⟨(h.stored x (.inr hx)).1, List.mem_append_left _ (h.stored x (.inr hx)).2⟩
      · exact h.kept hp htaken (.inl hx)
  · intro x hx
    rcases List.mem_append.mp hx with hx | hx
    · exact h.received x hx
    · split at hx
      · rw [List.mem_singleton.mp hx]
        exact hp
      · cases hx
  · -- The numbers between the old frontier and the new one are those of `run`.
    intro i hi
    by_cases hold : i < frontier r.resequencingBuffer
    · obtain ⟨x, hx, hsn⟩ := h.covered i hold
      exact ⟨x, List.mem_append_left _ hx, hsn⟩
    · have hk : i - frontier r.resequencingBuffer < run.length := by
        have hi' : i < frontier b := hi
        omega
      refine ⟨run[i - frontier r.resequencingBuffer], (h.kept hp htaken (.inl (List.getElem_mem hk))).2, ?_⟩
      rw [htaken.in_order _ _ (List.getElem?_eq_getElem hk)]
      omega
  · change frontier b ≤ drain obAccepted.length (pending b)
    rw [htaken.pending_eq, drain_append]
    exact Nat.le_trans hle (drain_run htaken.in_order h.drained)
  · rintro (hloop | hexited)
    · exact absurd hloop hpoint.1
    · exact absurd hexited hpoint.2

theorem RxOrdered.delivered (h : RxOrdered sent rsAccepted obAccepted r) {p : DataPacket} {b : R} (now : Clock)
    (hpoint : r.resequencingThread = .delivering)
    (hnext : ResequencingBuffer.getNextPacket r.resequencingBuffer = (some p, b)) :
    RxOrdered sent rsAccepted
      (obAccepted ++ (if (r.outputBuffer.addPacket now p).1 then some p else none).toList)
      { r with resequencingBuffer := b, outputBuffer := (r.outputBuffer.addPacket now p).2 } ∧
    frontier b = frontier r.resequencingBuffer := by
  obtain ⟨hpending, hwindow, hkeeps⟩ := LawfulResequencing.getNextPacket_some h.holds hnext
  obtain ⟨hholds, hfrontier⟩ := hkeeps (Nat.le_trans h.frontier_le hlen)
  have hstored : ∀ x, x ∈ window b ∨ x ∈ pending b → Received sent x ∧ x ∈ rsAccepted := by
    rintro x (hx | hx)
    · exact h.stored x (.inl (hwindow ▸ hx))
    · exact h.stored x (.inr (hpending ▸ List.mem_cons_of_mem p hx))
  have hwaits : r.resequencingThread = .loop ∨ r.resequencingThread = .exited → pending b = [] := by
    rintro (hloop | hexited)
    · cases hpoint.symm.trans hloop
    · cases hpoint.symm.trans hexited
  have hp := (h.stored p (.inr (hpending ▸ List.mem_cons_self))).1
  have hdrained := h.drained
  rw [hpending, drain_cons] at hdrained
  refine ⟨?_, hfrontier⟩
  -- A packet with an older number is dropped by the output buffer.
  by_cases hmatch : p.header.sequenceNumber = UInt16.ofNat obAccepted.length
  · have hput := OutputBuffer.addPacket_expected now (hmatch.trans h.expected.symm)
    rw [if_pos hmatch] at hdrained
    rw [hput]
    simp only [↓reduceIte, Option.toList_some]
    refine ⟨hholds, hstored, h.received, hfrontier ▸ h.frontier_le, hfrontier ▸ h.covered,
      h.output_concat hnumber hlen hp hmatch, ?_, ?_, hwaits⟩
    · rw [List.length_append, UInt16.ofNat_add, ← h.expected]
      rfl
    · change frontier b ≤ drain (obAccepted ++ [p]).length (pending b)
      rw [hfrontier, List.length_append]
      exact hdrained
  · have hput := OutputBuffer.addPacket_unexpected now (fun heq => hmatch (heq.trans h.expected))
    rw [if_neg hmatch] at hdrained
    rw [hput]
    simp only [Bool.false_eq_true, ↓reduceIte, Option.toList_none, List.append_nil]
    exact ⟨hholds, hstored, h.received, hfrontier ▸ h.frontier_le, hfrontier ▸ h.covered, h.output, h.expected,
      hfrontier ▸ hdrained, hwaits⟩

theorem RxOrdered.resequences (h : RxOrdered sent rsAccepted obAccepted r) (hc : RxCarried sent r) {now : Clock}
    {accepted delivered : Option DataPacket} (hr : r.Resequences now r' accepted delivered) :
    RxOrdered sent (rsAccepted ++ accepted.toList) (obAccepted ++ delivered.toList) r' ∧
      frontier r.resequencingBuffer ≤ frontier r'.resequencingBuffer := by
  cases hr with
  | loop hpoint =>
    simp only [Option.toList_none, List.append_nil]
    exact ⟨h.at_point rfl rfl (fun _ => .inl hpoint), Nat.le_refl _⟩
  | received =>
    simp only [Option.toList_none, List.append_nil]
    exact ⟨h.at_point rfl rfl (by simp), Nat.le_refl _⟩
  | @added p ack b hpoint hadd =>
    have hnext : (ack.map ResequencingPoint.pushing).getD .delivering ≠ .loop ∧
        (ack.map ResequencingPoint.pushing).getD .delivering ≠ .exited := by
      cases ack <;> simp
    obtain ⟨hordered, hmono, -⟩ := h.added hnumber hlen (hc.received p (.inr hpoint)) hadd hnext
    rw [Option.toList_none, List.append_nil]
    exact ⟨hordered, hmono⟩
  | faulted hpoint hadd =>
    obtain ⟨ack, b, hadd', -⟩ := LawfulResequencing.works_addPacket hc.works _
    cases hadd.symm.trans hadd'
  | pushed =>
    simp only [Option.toList_none, List.append_nil]
    exact ⟨h.at_point rfl rfl (by simp), Nat.le_refl _⟩
  | delivered hpoint hnext =>
    obtain ⟨hordered, hsame⟩ := h.delivered hnumber hlen now hpoint hnext
    rw [Option.toList_none, List.append_nil]
    exact ⟨hordered, Nat.le_of_eq hsame.symm⟩
  | drained hpoint hnext =>
    obtain ⟨rfl, hempty⟩ := LawfulResequencing.getNextPacket_none hnext
    simp only [Option.toList_none, List.append_nil]
    exact ⟨⟨h.holds, h.stored, h.received, h.frontier_le, h.covered, h.output, h.expected, h.drained,
      fun _ => hempty⟩, Nat.le_refl _⟩

end Sent

end ArqBenchmark
