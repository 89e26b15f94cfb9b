import ArqBenchmark.AcceptedPackets
import ArqBenchmark.AckSoundness

namespace ArqBenchmark

open ResequencingView DataPacket

/-- What is the case for each of the buffer pairs, whatever the timeout and the window sizes. -/
def ForEachPair (P : ∀ {B R : Type} [RetransmissionBuffer B] [ResequencingBuffer R], B → R → Prop) : Prop :=
  (∀ timeout, P (Rt.StopAndWait.new timeout) (Rs.StopAndWait.new firstSequenceNumber)) ∧
  (∀ N timeout, 0 < N → P (Rt.GoBackN.new N timeout firstSequenceNumber) (Rs.GoBackN.new firstSequenceNumber)) ∧
  ∀ N M timeout, 0 < N → 0 < M →
    P (Rt.SelectiveRepeat.new N timeout firstSequenceNumber) (Rs.SelectiveRepeat.new M firstSequenceNumber)

section Runs

variable {B R : Type} [RetransmissionBuffer B] [LawfulRetransmission B] [ResequencingView R]

structure Initial (rtBuffer : B) (rsBuffer : R) : Prop where
  held : LawfulRetransmission.Holds rtBuffer []
  works : Works rsBuffer
  holds : Holds rsBuffer
  frontier_eq : frontier rsBuffer = 0
  pending_eq : pending rsBuffer = []
  window_eq : window rsBuffer = []

variable {packets : List DataPacket} {rtBuffer : B} {rsBuffer : R} {s s' : System B R}

theorem Initial.ordered (h : Initial rtBuffer rsBuffer) : Ordered (System.new packets rtBuffer rsBuffer) where
  rx := {
    holds := h.holds
    stored := by
      rintro p (hp | hp)
      · exact absurd (h.window_eq ▸ hp : p ∈ []) List.not_mem_nil
      · exact absurd (h.pending_eq ▸ hp : p ∈ []) List.not_mem_nil
    received := fun p hp => by cases hp
    frontier_le := Nat.le_of_eq h.frontier_eq
    covered := fun i hi => by
      have hi' : i < 0 := h.frontier_eq ▸ hi
      omega
    output := fun i p hp => by cases hp
    expected := rfl
    drained := Nat.le_trans (Nat.le_of_eq h.frontier_eq) (Nat.zero_le _)
    waits := fun _ => h.pending_eq }
  acks := by
    rintro a ((ha | ha | ha | ha) | ha | ha | ha) <;> cases ha

variable [ResequencingBuffer R] [LawfulResequencing R]

theorem System.Run.sound (hi : Initial rtBuffer rsBuffer) (hf : ∀ p ∈ packets, p.Framed)
    (hn : packets.length < 65536) (h : System.Run packets rtBuffer rsBuffer s) : Carried packets s ∧
      Ordered s :=
  Runs.Reaches.invariant (P := fun s => Carried packets s ∧ Ordered s) h
    ⟨carried_new hi.held hi.works, hi.ordered⟩
    (fun _ _ _ ht _ hs => ⟨ht.1.step hf hs, ht.1.ordered_step hn ht.2 hs⟩)

end Runs

theorem Rt.holdsOrEmpty_new (N : UInt16) (timeout : ℤ) :
    Rt.HoldsOrEmpty (.new N timeout firstSequenceNumber) [] := by
  by_cases hN : 0 < N.toNat
  · exact .inl (Rt.CircularBuffer.new_holds hN timeout _)
  · exact .inr ⟨Nat.eq_zero_of_not_pos hN, rfl, rfl⟩

theorem initial_stopAndWait (timeout : ℤ) :
    Initial (Rt.StopAndWait.new timeout) (Rs.StopAndWait.new firstSequenceNumber) :=
  ⟨rfl, trivial, trivial, rfl, rfl, rfl⟩

theorem initial_goBackN (N : UInt16) (timeout : ℤ) :
    Initial (Rt.GoBackN.new N timeout firstSequenceNumber) (Rs.GoBackN.new firstSequenceNumber) :=
  ⟨Rt.holdsOrEmpty_new N timeout, trivial, fun h => absurd h Bool.false_ne_true, rfl, rfl, rfl⟩

theorem initial_selectiveRepeat (N M : UInt16) (timeout : ℤ) :
    Initial (Rt.SelectiveRepeat.new N timeout firstSequenceNumber)
      (Rs.SelectiveRepeat.new M firstSequenceNumber) := by
  have hsettled := Rs.SelectiveRepeat.new_settled M firstSequenceNumber
  refine ⟨Rt.holdsOrEmpty_new N timeout, ⟨_, hsettled⟩, ⟨_, hsettled⟩, rfl, rfl, ?_⟩
  change (List.replicate M.toNat none).filterMap id = []
  simp

theorem ForEachPair.of_initial {P : ∀ {B R : Type} [RetransmissionBuffer B] [ResequencingBuffer R], B → R → Prop}
    (h : ∀ {B R : Type} [RetransmissionBuffer B] [LawfulRetransmission B] [ResequencingBuffer R]
      [ResequencingView R] [LawfulResequencing R] {rtBuffer : B} {rsBuffer : R}, Initial rtBuffer rsBuffer →
      P rtBuffer rsBuffer) : ForEachPair P :=
  ⟨fun timeout => h (initial_stopAndWait timeout), fun N timeout _ => h (initial_goBackN N timeout),
    fun N M timeout _ _ => h (initial_selectiveRepeat N M timeout)⟩

/-- What the receiver hands to the application: the submitted packets in the order of their submission, with
the header that the input buffer gave them and their own payload. -/
def System.DeliversInOrder {B R : Type} (s : System B R) : Prop :=
  s.history.obAccepted.map contents <+: (outgoing s.history.submitted).map contents

theorem Carried.deliversInOrder {B R : Type} [RetransmissionBuffer B] [LawfulRetransmission B]
    [ResequencingBuffer R] [ResequencingView R] [LawfulResequencing R] {packets : List DataPacket}
    {s : System B R} (h : Carried packets s) (hf : ∀ p ∈ packets, p.Framed) (ho : Ordered s) :
    s.DeliversInOrder := by
  rw [System.DeliversInOrder, List.prefix_iff_getElem?]
  intro i hi
  have hi' : i < s.history.obAccepted.length := by rwa [List.length_map] at hi
  have hp := List.getElem?_eq_getElem hi'
  obtain ⟨q, hq, hcopy⟩ := ho.rx.output i _ hp
  have hlt : i < s.history.firstSent.length := (List.getElem?_eq_some_iff.mp hq).1
  have hcontents := hcopy.contents_eq (h.framed hf (List.mem_of_getElem? hq))
  rw [List.getElem_map, hcontents, List.getElem?_map, h.tx.queued, List.getElem?_append_left hlt, hq]
  rfl

/-- Whatever the network drops, duplicates, delays and reorders, the output buffer accepts a prefix of the
submitted packets, which the application gets one after the other. -/
theorem output_buffer_accepts_in_order (packets : List DataPacket) (hp : ∀ p ∈ packets, p.TransmitSide)
    (hn : packets.length < 2 ^ 16) :
    ForEachPair fun rtBuffer rsBuffer =>
      (∀ s, System.Run packets rtBuffer rsBuffer s → s.DeliversInOrder) ∧
        ∀ acts s, Runs.replay System.step (System.new packets rtBuffer rsBuffer) acts = some s →
          s.Keeps ((System.new packets rtBuffer rsBuffer).taken acts) := by
  have hf : ∀ p ∈ packets, p.Framed := fun p hmem => (hp p hmem).framed
  apply ForEachPair.of_initial
  intro B R _ _ _ _ _ rtBuffer rsBuffer hi
  constructor
  · intro s hs
    obtain ⟨hc, ho⟩ := hs.sound hi hf hn
    exact hc.deliversInOrder hf ho
  · intro acts s hs
    exact System.keeps_taken hs

def samplePackets : List DataPacket := [⟨⟨5, 0, 1⟩, [5, 0, 0, 0, 1, 0]⟩, ⟨⟨0, 0, 0⟩, [0, 0, 0, 0, 0]⟩]

theorem samplePackets_transmitSide : ∀ p ∈ samplePackets, p.TransmitSide := by
  intro p hp
  rcases List.mem_cons.mp hp with rfl | hp
  · exact .ofHeader ⟨5, 0, 1⟩ (by decide)
  · obtain rfl := List.mem_singleton.mp hp
    exact .default (by decide)

def sampleExchange : List Action :=
  let now : Clock := fun _ => 0
  [.transmitThread now, .transmitThread now, .resequencingThread now, .rxReceive 0 emptyReceiveBuffer,
    .resequencingThread now, .resequencingThread now, .resequencingThread now, .resequencingThread now,
    .resequencingThread now, .rxAckThread, .rxAckThread, .rxAckThread, .rxAckThread, .txAckThread,
    .txReceive 0 emptyReceiveBuffer, .txAckThread, .transmitThread now, .transmitThread now]

def sampleRun : List Action :=
  .sendPacket (fun _ => 0) :: .sendPacket (fun _ => 0) :: (sampleExchange ++ sampleExchange)

theorem output_buffer_accepts_in_order_run :
    ∃ s, System.Run samplePackets (Rt.StopAndWait.new 100) (Rs.StopAndWait.new firstSequenceNumber) s ∧
      s.history.obAccepted.length = 2 ∧ s.DeliversInOrder ∧ ∃ p, s.Keeps [p] := by
  let s₀ := System.new samplePackets (Rt.StopAndWait.new 100) (Rs.StopAndWait.new firstSequenceNumber)
  let acts : List Action := sampleRun ++ [.tryGetPacket]
  obtain ⟨s, hs⟩ : ∃ s, Runs.replay System.step s₀ acts = some s := Option.isSome_iff_exists.mp (by decide +kernel)
  have haccepted : (Runs.replay System.step s₀ acts).map (·.history.obAccepted.length) = some 2 := by decide +kernel
  obtain ⟨p, hp⟩ : ∃ p, s₀.taken acts = [p] := List.length_eq_one_iff.mp (by decide +kernel)
  have hrun : System.Run samplePackets _ _ s := Runs.reaches_of_replay (Runs.alongRun_true _ _) hs
  have hsample := (output_buffer_accepts_in_order samplePackets samplePackets_transmitSide (by decide)).1 100
  refine ⟨s, hrun, ?_, hsample.1 s hrun, p, ?_⟩
  · rwa [hs, Option.map_some, Option.some.injEq] at haccepted
  · rw [← hp]
    exact hsample.2 acts s hs

end ArqBenchmark
