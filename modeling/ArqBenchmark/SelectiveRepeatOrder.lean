import Mathlib.Data.List.Infix
import ArqBenchmark.Runs
import ArqBenchmark.SelectiveRepeatInsertion

namespace ArqBenchmark.Rs

open SelectiveRepeat

structure Recorded where
  buffer : SelectiveRepeat
  given : List DataPacket
  pushed : List DataPacket
deriving DecidableEq

namespace Recorded

def new (windowSize : UInt16) (first : SequenceNumber) : Recorded := ⟨.new windowSize first, [], []⟩

def next (s : Recorded) : RsCall → Option Recorded
  | .addPacket packet =>
    match s.buffer.addPacket packet with
    | .ok (_, b) =>
      some { buffer := b
             given := s.given ++ [packet]
             pushed := s.pushed ++ b.shadowBuffer.drop s.buffer.shadowBuffer.length }
    | .error _ => none
  | .getNextPacket => some { s with buffer := s.buffer.getNextPacket.2 }

def pushedNumbers (s : Recorded) : List SequenceNumber := s.pushed.map (fun p => p.header.sequenceNumber)

variable {s t : Recorded} {w : List (Option DataPacket)} {first : SequenceNumber}

theorem next_addPacket {p : DataPacket} {run : List DataPacket} {b' : SelectiveRepeat}
    {w' : List (Option DataPacket)} (hadd : s.buffer.addPacket p = .ok (b'.ack, b'))
    (h : Added s.buffer w p run b' w') :
    s.next (.addPacket p) = some { buffer := b', given := s.given ++ [p], pushed := s.pushed ++ run } := by
  simp only [next, hadd, h.shadow, List.drop_left]

section Order

/-- The packets pushed so far have the sequence numbers `first`, `first + 1`, ... and
`earliestExpected_` is the one after them. -/
def InOrder (first : SequenceNumber) (s : Recorded) : Prop :=
  s.pushed.map (fun p => p.header.sequenceNumber.toNat) = List.range' first.toNat s.pushed.length ∧
    s.buffer.earliestExpected.toNat = first.toNat + s.pushed.length
deriving Decidable

def StepInOrder (first : SequenceNumber) (s : Recorded) (c : RsCall) : Prop :=
  ∃ t ∈ s.next c, InOrder first t
deriving Decidable

def NoRollOver (s : Recorded) (c : RsCall) : Prop :=
  ∀ t ∈ s.next c, s.buffer.earliestExpected ≤ t.buffer.earliestExpected
deriving Decidable

/-- The packet is not the expected one while all the other slots are filled. -/
def LeavesGap (s : Recorded) : RsCall → Prop
  | .addPacket packet => ¬ (packet.header.sequenceNumber = s.buffer.earliestExpected ∧
      s.buffer.packetsInBuffer + 1 = s.buffer.windowSize.toNat)
  | .getNextPacket => True

instance (s : Recorded) : ∀ c, Decidable (LeavesGap s c)
  | .addPacket _ => inferInstanceAs (Decidable (¬ _))
  | .getNextPacket => isTrue trivial

def Ordered (first : SequenceNumber) (s : Recorded) : Prop :=
  0 < s.buffer.windowSize.toNat ∧ (∃ w, s.buffer.Settled w) ∧ InOrder first s

theorem Ordered.pushes {p : DataPacket} {run : List DataPacket} {b' : SelectiveRepeat}
    {w' : List (Option DataPacket)} (ho : Ordered first s) (h : Added s.buffer w p run b' w')
    (hroll : s.buffer.earliestExpected ≤ b'.earliestExpected)
    (hmoved : b'.earliestExpected = s.buffer.earliestExpected + UInt16.ofNat run.length)
    (hlen : run.length < 65536) :
    Ordered first { buffer := b', given := s.given ++ [p], pushed := s.pushed ++ run } := by
  obtain ⟨hpos, -, hcons, hnext⟩ := ho
  have hlt := s.buffer.earliestExpected.toNat_lt
  rw [UInt16.le_iff_toNat_le, hmoved, UInt16.toNat_add, UInt16.toNat_ofNat'] at hroll
  refine ⟨by rwa [h.size], ⟨w', h.settled⟩, ?_, ?_⟩
  · rw [List.map_append, hcons, List.length_append, ← List.range'_append_1]
    congr 1
    apply List.ext_getElem
    · rw [List.length_map, List.length_range']
    · intro i hi _
      rw [List.length_map] at hi
      rw [List.getElem_map, List.getElem_range', h.sequence i _ (List.getElem?_eq_getElem hi), hnext]
      omega
  · change b'.earliestExpected.toNat = _
    rw [hmoved, UInt16.toNat_add, UInt16.toNat_ofNat', List.length_append]
    omega

theorem stepInOrder_iff {c : RsCall} (h : Ordered first s) (hroll : NoRollOver s c) :
    StepInOrder first s c ↔ LeavesGap s c := by
  cases c with
  | getNextPacket => exact iff_of_true ⟨_, rfl, h.2.2.1, h.2.2.2⟩ trivial
  | addPacket p =>
    have ho := h
    obtain ⟨hpos, ⟨w, hw⟩, -, hnext⟩ := h
    obtain ⟨run, b', w', hadd, hb'⟩ := hw.addPacket p
    have hstep := next_addPacket hadd hb'
    have hsize := s.buffer.windowSize.toNat_lt
    constructor
    · rintro ⟨t, ht, hin⟩ hfull
      obtain rfl := Option.some.inj (hstep.symm.trans ht)
      obtain ⟨he, hrun⟩ := hb'.stuck hfull
      have hnext' := hin.2
      simp only [he, List.length_append] at hnext'
      omega
    · intro hgap
      have hrun := hb'.length_le
      exact ⟨_, hstep, (ho.pushes hb' (hroll _ hstep) (hb'.moved hgap) (by omega)).2.2⟩

theorem Ordered.next {c : RsCall} (h : Ordered first s) (hroll : NoRollOver s c) (hgap : LeavesGap s c)
    (ht : s.next c = some t) : Ordered first t := by
  cases c with
  | getNextPacket =>
    obtain rfl := Option.some.inj ht
    obtain ⟨hpos, ⟨w, hw⟩, hin⟩ := h
    exact ⟨hpos, ⟨w, hw.getNextPacket⟩, hin.1, hin.2⟩
  | addPacket p =>
    obtain ⟨w, hw⟩ := h.2.1
    obtain ⟨run, b', w', hadd, hb'⟩ := hw.addPacket p
    have hstep := next_addPacket hadd hb'
    have hsize := s.buffer.windowSize.toNat_lt
    have hrun := hb'.length_le
    obtain rfl := Option.some.inj (hstep.symm.trans ht)
    exact h.pushes hb' (hroll _ hstep) (hb'.moved hgap) (by omega)

/-- Packets are pushed once and in order exactly as long as no packet completes the window. -/
theorem pushed_in_order_iff_leaves_gap (windowSize : UInt16) (hw : 0 < windowSize.toNat)
    (first : SequenceNumber) (calls : List RsCall)
    (hroll : Runs.AlongRun next NoRollOver (.new windowSize first) calls) :
    Runs.AlongRun next (StepInOrder first) (.new windowSize first) calls ↔
      Runs.AlongRun next LeavesGap (.new windowSize first) calls :=
  Runs.alongRun_congr (I := Ordered first) (fun _ _ h hr => stepInOrder_iff h hr)
    (fun _ _ _ h hr hq ht => h.next hr hq ht)
    ⟨hw, ⟨_, new_settled windowSize first⟩, rfl, rfl⟩ hroll

def samplePacket (seqNum : SequenceNumber) : DataPacket := ⟨⟨1, seqNum, 1⟩, [1, 0, 0, 0, 1, 7]⟩

theorem pushed_in_order_iff_leaves_gap_run :
    Runs.AlongRun next (StepInOrder 0) (.new 3 0)
      [.addPacket (samplePacket 1), .getNextPacket, .addPacket (samplePacket 0)] :=
  (pushed_in_order_iff_leaves_gap 3 (by decide) 0 _ (by decide)).mpr (by decide)

/-- In a window of two the same packets are pushed, but the window does not move. -/
theorem completed_window_stays :
    Runs.AlongRun next NoRollOver (.new 2 0) [.addPacket (samplePacket 1), .addPacket (samplePacket 0)] ∧
      ¬ Runs.AlongRun next (StepInOrder 0) (.new 2 0)
        [.addPacket (samplePacket 1), .addPacket (samplePacket 0)] := by
  decide

end Order

end Recorded

end ArqBenchmark.Rs
