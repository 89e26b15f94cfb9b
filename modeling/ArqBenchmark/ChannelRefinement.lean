import ArqBenchmark.FifoChannel
import ArqBenchmark.ReliableChannel

namespace ArqBenchmark

open DataPacket

abbrev Message := ConversationID × List Byte

def DataPacket.message (p : DataPacket) : Message := (p.contents.1.id, p.contents.2)

@[simp] theorem numbered_message (i : ℕ) (p : DataPacket) : (numbered i p).message = p.message := by
  simp only [DataPacket.message, contents, numbered, getHeader, withHeader_payload]
  rfl

namespace System

section Messages

variable {B R : Type} {s : System B R} {got : List DataPacket} {queue : List Message}

def sees (s : System B R) : Action → Option (FifoChannel.Event Message)
  | .sendPacket _ => s.toSubmit.head?.map fun p => .put p.message
  | .tryGetPacket => some (.got ((s.takes .tryGetPacket).map message))
  | _ => none

structure Queues (s : System B R) (got : List DataPacket) (queue : List Message) : Prop where
  keeps : s.Keeps got
  submitted : s.history.submitted.map message = got.map message ++ queue

theorem Queues.got_next (h : s.Queues got queue)
    (hin : s.history.obAccepted.map message <+: s.history.submitted.map message) :
    ∃ queue', Runs.Shows FifoChannel.Step some queue [.got ((s.takes .tryGetPacket).map message)] queue' ∧
      Queues { s with receiver := s.receiver.tryGetPacket.2 } (got ++ (s.takes .tryGetPacket).toList) queue' := by
  have haccepted := h.keeps
  rw [Keeps] at haccepted
  have hkeeps := h.keeps.tryGetPacket
  cases houtput : s.receiver.outputBuffer.outputPackets with
  | nil =>
    have htakes : s.takes .tryGetPacket = none := by
      simp [takes, Receiver.tryGetPacket, OutputBuffer.tryGetPacket, SafeQueue.tryPop, houtput]
    rw [htakes] at hkeeps ⊢
    exact ⟨queue, .single .waited, hkeeps, by simpa using h.submitted⟩
  | cons o rest =>
    have htakes : s.takes .tryGetPacket = some o.packet := by
      simp [takes, Receiver.tryGetPacket, OutputBuffer.tryGetPacket, SafeQueue.tryPop, houtput]
    rw [haccepted, houtput, h.submitted, List.map_append, List.prefix_append_right_inj] at hin
    obtain ⟨more, rfl⟩ := hin
    rw [htakes] at hkeeps ⊢
    refine ⟨_, .single .got, hkeeps, ?_⟩
    rw [h.submitted]
    simp

variable [RetransmissionBuffer B] [ResequencingBuffer R] {s' : System B R} {act : Action}

theorem Queues.step (h : s.Queues got queue)
    (hin : s.history.obAccepted.map message <+: s.history.submitted.map message) (hs : s.step act = some s') :
    ∃ got' queue', Runs.Shows FifoChannel.Step some queue (s.sees act).toList queue' ∧ s'.Queues got' queue' := by
  have hkeeps := h.keeps.step hs
  cases step_steps hs with
  | @submits now p toSubmit inputBuffer hsubmit hadd =>
    rw [sees, hsubmit]
    refine ⟨_, _, .single .put, hkeeps, ?_⟩
    change (s.history.submitted ++ [p]).map message = _
    rw [List.map_append, h.submitted]
    simp [takes]
  | tryGetPacket =>
    obtain ⟨queue', hshows, hqueues⟩ := h.got_next hin
    exact ⟨_, queue', hshows, hqueues⟩
  | _ => exact ⟨_, queue, .refl, hkeeps, by simpa [takes] using h.submitted⟩

def trace (s : System B R) (acts : List Action) : List (FifoChannel.Event Message) :=
  Runs.seen System.step sees s acts

/-- What the applications see could be seen of a channel, and is all of what was put in but for its queue. -/
def ShowsChannel (s : System B R) (acts : List Action) : Prop :=
  ∃ queue, FifoChannel.Shows (s.trace acts) queue ∧
    FifoChannel.puts (s.trace acts) = FifoChannel.gots (s.trace acts) ++ queue

theorem shows_trace {P : Action → Prop} {I : System B R → Prop} {packets : List DataPacket} {rtBuffer : B}
    {rsBuffer : R} {acts : List Action} (h0 : I (new packets rtBuffer rsBuffer))
    (hstep : ∀ s act s', I s → P act → s.step act = some s' → I s')
    (hin : ∀ s, I s → s.history.obAccepted.map message <+: s.history.submitted.map message)
    (hP : ∀ act ∈ acts, P act) (hs : Runs.replay System.step (new packets rtBuffer rsBuffer) acts = some s) :
    (new packets rtBuffer rsBuffer).ShowsChannel acts := by
  have hnew : Queues (new packets rtBuffer rsBuffer) [] [] := ⟨rfl, rfl⟩
  have hend := Runs.seen_extends
    (I := fun trace s => I s ∧ ∃ got queue, FifoChannel.Shows trace queue ∧ s.Queues got queue)
    (fun trace s act s' ⟨hI, got, queue, hshows, hqueues⟩ hact hs => by
      obtain ⟨got', queue', hmore, hqueues'⟩ := hqueues.step (hin s hI) hs
      exact ⟨hstep s act s' hI hact hs, got', queue', hshows.trans hmore, hqueues'⟩)
    hP ⟨h0, [], [], .refl, hnew⟩ hs
  obtain ⟨-, -, queue, hqueue, -⟩ := hend
  exact ⟨queue, hqueue, hqueue.conserves⟩

end Messages

end System

theorem outgoing_message (packets : List DataPacket) : (outgoing packets).map message = packets.map message := by
  apply List.ext_getElem?
  intro i
  rw [outgoing, List.getElem?_map, List.getElem?_mapIdx, List.getElem?_map]
  cases packets[i]? <;> simp

theorem Initial.shows_fifo_channel {B R : Type} [RetransmissionBuffer B] [LawfulRetransmission B]
    [ResequencingBuffer R] [ResequencingView R] [LawfulResequencing R] {packets : List DataPacket} {rtBuffer : B}
    {rsBuffer : R} {acts : List Action} {s : System B R} (hi : Initial rtBuffer rsBuffer)
    (hf : ∀ p ∈ packets, p.Framed) (hn : packets.length < 65536)
    (hs : Runs.replay System.step (System.new packets rtBuffer rsBuffer) acts = some s) :
    (System.new packets rtBuffer rsBuffer).ShowsChannel acts := by
  have hstep : ∀ (s : System B R) (act : Action) (s' : System B R), Carried packets s ∧ Ordered s → True →
      s.step act = some s' → Carried packets s' ∧ Ordered s' :=
    fun s act s' h _ hs => ⟨h.1.step hf hs, h.1.ordered_step hn h.2 hs⟩
  have hin : ∀ s : System B R, Carried packets s ∧ Ordered s →
      s.history.obAccepted.map message <+: s.history.submitted.map message := by
    rintro s ⟨hc, ho⟩
    have hprefix : s.history.obAccepted.map message <+: (outgoing s.history.submitted).map message := by
      have hcontents := (hc.deliversInOrder hf ho).map fun c => ((c.1.id, c.2) : Message)
      rwa [List.map_map, List.map_map] at hcontents
    rwa [outgoing_message] at hprefix
  exact System.shows_trace ⟨carried_new hi.held hi.works, hi.ordered⟩ hstep hin (fun _ _ => trivial) hs

/-- Whatever the threads and the network do, nothing can be seen by the applications that a channel would not
show that takes any time over a message but neither loses, copies nor reorders one: for the pairs of buffers over
a network that may do all that, and for SCTP's over one that does not. -/
theorem applications_see_fifo_channel (packets : List DataPacket) (hp : ∀ p ∈ packets, p.TransmitSide) :
    (packets.length < 2 ^ 16 → ForEachPair fun rtBuffer rsBuffer => ∀ acts s,
      Runs.replay System.step (System.new packets rtBuffer rsBuffer) acts = some s →
      (System.new packets rtBuffer rsBuffer).ShowsChannel acts) ∧
    ((∀ p ∈ packets, p.FillsPayload) → ∀ acts s, (∀ act ∈ acts, act.isReliable = true) →
      Runs.replay System.step (System.new packets Rt.DummySCTP.new (Rs.DummySCTP.new firstSequenceNumber)) acts =
        some s →
      (System.new packets Rt.DummySCTP.new (Rs.DummySCTP.new firstSequenceNumber)).ShowsChannel acts) := by
  have hf : ∀ p ∈ packets, p.Framed := fun p hmem => (hp p hmem).framed
  constructor
  · intro hn
    apply ForEachPair.of_initial
    intro B R _ _ _ _ _ rtBuffer rsBuffer hi acts s hs
    exact hi.shows_fifo_channel hf hn hs
  · intro hfills acts s hreliable hs
    have hboth : ∀ p ∈ packets, p.Framed ∧ p.FillsPayload := fun p hmem => ⟨hf p hmem, hfills p hmem⟩
    have hin : ∀ s, Piped packets s → s.history.obAccepted.map message <+: s.history.submitted.map message := by
      intro s h
      have hprefix := h.accepts_in_order.map message
      rwa [outgoing_message] at hprefix
    exact System.shows_trace (piped_new packets) (fun _ _ _ h hact hs => h.step hboth hact hs) hin hreliable hs

/-- Both packets are got, between two requests that are made in vain. -/
theorem applications_see_fifo_channel_run : ∃ (s₀ : System Rt.StopAndWait Rs.StopAndWait) (acts : List Action),
    FifoChannel.gots (s₀.trace acts) = [(5, [0]), (0, [])] ∧ s₀.ShowsChannel acts := by
  let acts : List Action := .tryGetPacket :: sampleRun ++ [.tryGetPacket, .tryGetPacket, .tryGetPacket]
  let s₀ := System.new samplePackets (Rt.StopAndWait.new 100) (Rs.StopAndWait.new firstSequenceNumber)
  obtain ⟨s, hs⟩ : ∃ s, Runs.replay System.step s₀ acts = some s := Option.isSome_iff_exists.mp (by decide +kernel)
  have hgots : FifoChannel.gots (s₀.trace acts) = [(5, [0]), (0, [])] := by decide +kernel
  exact ⟨s₀, acts, hgots, ((applications_see_fifo_channel samplePackets samplePackets_transmitSide).1
    (by decide)).1 100 acts s hs⟩

end ArqBenchmark
