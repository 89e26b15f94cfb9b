import ArqBenchmark.LogFiles
import ArqBenchmark.ReliableChannel
import ArqBenchmark.TimedRuns

namespace ArqBenchmark

open LazySearch

def Action.resequences : Action → Bool
  | .resequencingThread _ | .rxReceive _ _ | .rxReceiveTimeout => true
  | _ => false

def OutputBuffer.lines (ts : Timestamps) (b : OutputBuffer) (now : Clock) (packet : DataPacket) : List Text :=
  if packet.getHeader.sequenceNumber = b.nextSequenceNumber then
    [pushedLine ts packet.getHeader.sequenceNumber (now 0)]
  else []

/-- A system with the log files of its two processes. The resequencing thread has made its last step at `rsTime`. -/
structure Logged (B R : Type) where
  system : System B R
  time : Time
  rsTime : Time
  serverLog : List Text
  clientLog : List Text

section Lines

variable {B R : Type} [RetransmissionBuffer B] [ResequencingBuffer R] (ts : Timestamps)

def System.serverLines (s : System B R) : Action → List Text
  | .sendPacket now =>
    match s.toSubmit with
    | [] => []
    | _ :: _ => [InputBuffer.addedLine ts (s.transmitter.inputBuffer.getNextInfo now).1]
  | _ => []

def System.clientLines (s : System B R) : Action → List Text
  | .resequencingThread now =>
    match s.receiver.resequencingThread with
    | .delivering =>
      match ResequencingBuffer.getNextPacket s.receiver.resequencingBuffer with
      | (some packetForDelivery, _) => s.receiver.outputBuffer.lines ts now packetForDelivery
      | (none, _) => []
    | _ => []
  | _ => []

/-- A thread may have read the clock at any time since its last step. -/
structure Logged.Reads (s : Logged B R) (act : Action) (time : Time) : Prop where
  le : s.time ≤ time
  past : ∀ now ∈ act.clock, ∀ i, now i ≤ time
  since : act.resequences = true → ∀ now ∈ act.clock, ∀ i, s.rsTime ≤ now i

/-- A step of the system, or a line that is not about a packet in a buffer. -/
inductive Logged.Step (s : Logged B R) : Option Action → Logged B R → Prop
  | acts {act : Action} {s' : System B R} {time : Time} : s.system.step act = some s' → s.Reads act time →
      Step s (some act) {
        system := s'
        time := time
        rsTime := if act.resequences then time else s.rsTime
        serverLog := s.serverLog ++ s.system.serverLines ts act
        clientLog := s.clientLog ++ s.system.clientLines ts act }
  | serverLogs {line : Text} : ¬ MentionsPacket "Adding" line →
      Step s none { s with serverLog := s.serverLog ++ [line] }
  | clientLogs {line : Text} : ¬ MentionsPacket "Pushed" line →
      Step s none { s with clientLog := s.clientLog ++ [line] }

def Logged.new (s : System B R) (start : Time) : Logged B R := ⟨s, start, start, [], []⟩

end Lines

namespace System

variable {B R : Type} {s s' : System B R}

structure Rested (s s' : System B R) : Prop where
  resequencingBuffer : s'.receiver.resequencingBuffer = s.receiver.resequencingBuffer
  resequencingThread : s'.receiver.resequencingThread = s.receiver.resequencingThread
  nextSequenceNumber : s'.receiver.outputBuffer.nextSequenceNumber = s.receiver.outputBuffer.nextSequenceNumber
  obAccepted : s'.history.obAccepted = s.history.obAccepted

theorem Rested.refl (s : System B R) : Rested s s := ⟨rfl, rfl, rfl, rfl⟩

theorem Rested.trans {t : System B R} (h : Rested s s') (h' : Rested s' t) : Rested s t :=
  ⟨h'.resequencingBuffer.trans h.resequencingBuffer, h'.resequencingThread.trans h.resequencingThread,
    h'.nextSequenceNumber.trans h.nextSequenceNumber, h'.obAccepted.trans h.obAccepted⟩

variable [ResequencingBuffer R]

structure HandsOver (s : System B R) (p : DataPacket) : Prop where
  point : s.receiver.resequencingThread = .delivering
  next : ∃ b, ResequencingBuffer.getNextPacket s.receiver.resequencingBuffer = (some p, b)
  expected : p.header.sequenceNumber = s.receiver.outputBuffer.nextSequenceNumber

theorem HandsOver.of_rested {p : DataPacket} (h : s'.HandsOver p) (hrest : Rested s s') : s.HandsOver p where
  point := hrest.resequencingThread ▸ h.point
  next := hrest.resequencingBuffer ▸ h.next
  expected := hrest.nextSequenceNumber ▸ h.expected

variable [RetransmissionBuffer B] {act : Action} (ts : Timestamps)

theorem added_or_same (hs : s.step act = some s') :
    (∃ now p, act = .sendPacket now ∧
      s.serverLines ts act = [InputBuffer.addedLine ts (s.transmitter.inputBuffer.getNextInfo now).1] ∧
      s'.transmitter.inputBuffer.lastSequenceNumber = s.transmitter.inputBuffer.lastSequenceNumber + 1 ∧
      s'.history.submitted = s.history.submitted ++ [p]) ∨
    s.serverLines ts act = [] ∧
      s'.transmitter.inputBuffer.lastSequenceNumber = s.transmitter.inputBuffer.lastSequenceNumber ∧
      s'.history.submitted = s.history.submitted := by
  cases step_steps hs with
  | submits hsubmit hadd =>
    refine .inl ⟨_, _, rfl, ?_, ?_, rfl⟩
    · simp only [serverLines, hsubmit]
    · obtain ⟨p, -, hput⟩ := Loops.bind_eq_ok.mp hadd
      cases hput
      rfl
  | transmits ht => cases ht <;> exact .inr ⟨rfl, rfl, rfl⟩
  | takesAcks ht => cases ht <;> exact .inr ⟨rfl, rfl, rfl⟩
  | txReceives _ ht =>
    obtain ⟨-, point, rfl, -⟩ := Transmitter.receiveAck_point ht
    exact .inr ⟨rfl, rfl, rfl⟩
  | txTimesOut ht =>
    obtain ⟨-, point, rfl, -⟩ := Transmitter.receiveAck_point ht
    exact .inr ⟨rfl, rfl, rfl⟩
  | _ => exact .inr ⟨rfl, rfl, rfl⟩

theorem HandsOver.step {p : DataPacket} (h : s.HandsOver p) (now : Clock) :
    ∃ s', s.step (.resequencingThread now) = some s' ∧
      s'.history.obAccepted = s.history.obAccepted ++ [p] ∧ s'.history.submitted = s.history.submitted := by
  obtain ⟨b, hnext⟩ := h.next
  simp only [System.step, System.resequencingThread, Receiver.resequencingStep, h.point, Receiver.deliverPacket, hnext,
    OutputBuffer.addPacket_expected now h.expected]
  exact ⟨_, rfl, rfl, rfl⟩

theorem pushed_or_same (hs : s.step act = some s') :
    (∃ now p, act = .resequencingThread now ∧ s.HandsOver p ∧
      s.clientLines ts act = [OutputBuffer.pushedLine ts s.receiver.outputBuffer.nextSequenceNumber (now 0)] ∧
      s'.receiver.outputBuffer.nextSequenceNumber = s.receiver.outputBuffer.nextSequenceNumber + 1 ∧
      s'.history.obAccepted = s.history.obAccepted ++ [p]) ∨
    s.clientLines ts act = [] ∧
      s'.receiver.outputBuffer.nextSequenceNumber = s.receiver.outputBuffer.nextSequenceNumber ∧
      s'.history.obAccepted = s.history.obAccepted := by
  cases step_steps hs with
  | resequences hr =>
    cases hr with
    | @delivered p b hpoint hnext =>
      by_cases hexpected : p.header.sequenceNumber = s.receiver.outputBuffer.nextSequenceNumber
      · refine .inl ⟨_, p, rfl, ⟨hpoint, ⟨b, hnext⟩, hexpected⟩, ?_⟩
        simp only [clientLines, hpoint, hnext, OutputBuffer.lines, DataPacket.getHeader, hexpected,
          OutputBuffer.addPacket_expected _ hexpected, ↓reduceIte, Option.toList_some, and_self]
      · refine .inr ?_
        simp only [clientLines, hpoint, hnext, OutputBuffer.lines, DataPacket.getHeader, hexpected,
          OutputBuffer.addPacket_unexpected _ hexpected, ↓reduceIte, Bool.false_eq_true, Option.toList_none,
          List.append_nil, and_self]
    | drained hpoint hnext =>
      refine .inr ?_
      simp only [clientLines, hpoint, hnext, Option.toList_none, List.append_nil, and_self]
    | loop hpoint => exact .inr ⟨by simp only [clientLines, hpoint], rfl, List.append_nil _⟩
    | received hpoint => exact .inr ⟨by simp only [clientLines, hpoint], rfl, List.append_nil _⟩
    | added hpoint => exact .inr ⟨by simp only [clientLines, hpoint], rfl, List.append_nil _⟩
    | faulted hpoint => exact .inr ⟨by simp only [clientLines, hpoint], rfl, List.append_nil _⟩
    | pushed hpoint => exact .inr ⟨by simp only [clientLines, hpoint], rfl, List.append_nil _⟩
  | rxReceives _ hr =>
    obtain ⟨-, point, rfl, -⟩ := Receiver.receivePacket_point hr
    exact .inr ⟨rfl, rfl, rfl⟩
  | rxTimesOut hr =>
    obtain ⟨-, point, rfl, -⟩ := Receiver.receivePacket_point hr
    exact .inr ⟨rfl, rfl, rfl⟩
  | sendsAcks hr => cases hr <;> exact .inr ⟨rfl, rfl, rfl⟩
  | _ => exact .inr ⟨rfl, rfl, rfl⟩

theorem Rested.of_step (hs : s.step act = some s') (hact : act.resequences = false) : Rested s s' := by
  cases step_steps hs with
  | resequences => cases hact
  | rxReceives => cases hact
  | rxTimesOut => cases hact
  | sendsAcks hr => cases hr <;> exact ⟨rfl, rfl, rfl, rfl⟩
  | _ => exact ⟨rfl, rfl, rfl, rfl⟩

end System

section Series

variable {B R : Type} [RetransmissionBuffer B] [ResequencingBuffer R] {s s' : System B R} {act : Action}
  {ts : Timestamps} {log : List Text} {time time' : Time} {added pushed : List Time}

structure ServerSeries (ts : Timestamps) (log : List Text) (s : System B R) (time : Time) (added : List Time) :
    Prop where
  parsed : parseServerLogfile ts log = timeSeries 0 added
  length_eq : added.length = s.history.submitted.length
  number : s.transmitter.inputBuffer.lastSequenceNumber + 1 = UInt16.ofNat added.length
  past : ∀ t ∈ added, t ≤ time

structure ClientSeries (ts : Timestamps) (log : List Text) (s : System B R) (pushed : List Time) : Prop where
  parsed : parseClientLogfile ts log = timeSeries 0 pushed
  length_eq : pushed.length = s.history.obAccepted.length
  number : s.receiver.outputBuffer.nextSequenceNumber = UInt16.ofNat pushed.length

theorem parseServerLogfile_added (info : PacketInfo) : parseServerLogfile ts [InputBuffer.addedLine ts info] =
    [(digits info.sequenceNumber, info.firstTxTime / 1000)] :=
  parsePacketLines_packetLine ts (by decide) (by decide) _ _

theorem parseClientLogfile_pushed (sn : SequenceNumber) (rxTime : Time) :
    parseClientLogfile ts [OutputBuffer.pushedLine ts sn rxTime] = [(digits sn, rxTime / 1000)] :=
  parsePacketLines_packetLine ts (by decide) (by decide) _ _

theorem timeSeries_concat {n : SequenceNumber} {times : List Time} (hn : n = UInt16.ofNat times.length) (t : Time) :
    timeSeries 0 (times ++ [t]) = timeSeries 0 times ++ [(digits n, t / 1000)] := by
  rw [timeSeries_append, Nat.zero_add, hn]
  rfl

theorem ServerSeries.step (h : ServerSeries ts log s time added) (hs : s.step act = some s') (hle : time ≤ time')
    (hpast : ∀ now ∈ act.clock, ∀ i, now i ≤ time') :
    ∃ more, ServerSeries ts (log ++ s.serverLines ts act) s' time' (added ++ more) := by
  have hlater : ∀ t ∈ added, t ≤ time' := fun t ht => Int.le_trans (h.past t ht) hle
  rcases s.added_or_same ts hs with ⟨now, p, rfl, hlines, hnumber, hsubmitted⟩ | ⟨hlines, hnumber, hsubmitted⟩
  · refine ⟨[now 0], ⟨?_, ?_, ?_, ?_⟩⟩
    · rw [hlines, parseServerLogfile, parsePacketLines_append, timeSeries_concat h.number]
      exact congrArg₂ _ h.parsed (parseServerLogfile_added _)
    · rw [List.length_append, hsubmitted, List.length_append, h.length_eq]
      rfl
    · rw [hnumber, h.number, ofNat_succ, List.length_append]
      rfl
    · intro t ht
      rcases List.mem_append.mp ht with ht | ht
      · exact hlater t ht
      · rw [List.mem_singleton.mp ht]
        exact hpast now rfl 0
  · refine ⟨[], ⟨?_, ?_, ?_, ?_⟩⟩
    · rw [hlines, List.append_nil, List.append_nil, h.parsed]
    · rw [List.append_nil, hsubmitted, h.length_eq]
    · rw [List.append_nil, hnumber, h.number]
    · rwa [List.append_nil]

theorem ClientSeries.step (h : ClientSeries ts log s pushed) (hs : s.step act = some s') :
    ClientSeries ts (log ++ s.clientLines ts act) s' pushed ∨
    ∃ now p, act = .resequencingThread now ∧ s.HandsOver p ∧
      ClientSeries ts (log ++ s.clientLines ts act) s' (pushed ++ [now 0]) := by
  rcases s.pushed_or_same ts hs with ⟨now, p, rfl, hhands, hlines, hnumber, haccepted⟩ | ⟨hlines, hnumber, haccepted⟩
  · refine .inr ⟨now, p, rfl, hhands, ⟨?_, ?_, ?_⟩⟩
    · rw [hlines, parseClientLogfile, parsePacketLines_append, timeSeries_concat h.number]
      exact congrArg₂ _ h.parsed (parseClientLogfile_pushed _ _)
    · rw [List.length_append, haccepted, List.length_append, h.length_eq]
      rfl
    · rw [hnumber, h.number, ofNat_succ, List.length_append]
      rfl
  · refine .inl ⟨?_, ?_, ?_⟩
    · rw [hlines, List.append_nil, h.parsed]
    · rw [haccepted, h.length_eq]
    · rw [hnumber, h.number]

end Series

section Runs

variable {B R : Type} [RetransmissionBuffer B] [ResequencingBuffer R] {ts : Timestamps} {allowed : Action → Prop}
  {s₀ rested : System B R} {s s' : Logged B R} {act : Option Action} {start : Time} {added pushed : List Time}

/-- What the log files say about a state. `rested` is the state after the last step of the resequencing thread:
what that thread finds now was there by then. -/
structure Logged.Recorded (ts : Timestamps) (s : Logged B R) (added pushed : List Time) (rested : System B R) :
    Prop where
  server : ServerSeries ts s.serverLog s.system s.time added
  client : ClientSeries ts s.clientLog s.system pushed
  follows : List.Forall₂ (· ≤ ·) (added.take pushed.length) pushed
  rests : System.Rested rested s.system
  submitted_le : rested.history.submitted.length ≤ added.length
  past : ∀ t ∈ added.take rested.history.submitted.length, t ≤ s.rsTime

abbrev Logged.Run (ts : Timestamps) (allowed : Action → Prop) (s₀ : System B R) (start : Time) (s : Logged B R) :
    Prop :=
  Runs.Reaches (Logged.Step ts) (fun _ act => ∀ a ∈ act, allowed a) (.new s₀ start) s

abbrev System.AllowedRun (allowed : Action → Prop) (s₀ s : System B R) : Prop :=
  Runs.Reaches (fun s act s' => System.step s act = some s') (fun _ act => allowed act) s₀ s

theorem Logged.Recorded.acts (h : s.Recorded ts added pushed rested) {act : Action} {t : System B R} {time : Time}
    (hbound : ∀ u, rested.step act = some u → u.history.obAccepted.length ≤ u.history.submitted.length)
    (hs : s.system.step act = some t) (hreads : s.Reads act time) :
    ∃ added' pushed', Logged.Recorded ts {
        system := t
        time := time
        rsTime := if act.resequences then time else s.rsTime
        serverLog := s.serverLog ++ s.system.serverLines ts act
        clientLog := s.clientLog ++ s.system.clientLines ts act }
      added' pushed' (if act.resequences then t else rested) := by
  obtain ⟨more, hserver⟩ := h.server.step hs hreads.le hreads.past
  have hpushed : pushed.length ≤ added.length := by
    have hlength := h.follows.length_eq
    rw [List.length_take] at hlength
    omega
  have hrests : System.Rested (if act.resequences then t else rested) t ∧
      (if act.resequences then t else rested).history.submitted.length ≤ (added ++ more).length ∧
      ∀ x ∈ (added ++ more).take (if act.resequences then t else rested).history.submitted.length,
        x ≤ if act.resequences then time else s.rsTime := by
    by_cases hact : act.resequences = true
    · rw [if_pos hact, if_pos hact]
      exact ⟨.refl t, Nat.le_of_eq hserver.length_eq.symm, fun x hx => hserver.past x (List.mem_of_mem_take hx)⟩
    · rw [if_neg hact, if_neg hact, List.take_append_of_le_length h.submitted_le, List.length_append]
      exact ⟨h.rests.trans (.of_step hs (Bool.not_eq_true _ ▸ hact)),
        Nat.le_trans h.submitted_le (Nat.le_add_right _ _), h.past⟩
  rcases h.client.step hs with hclient | ⟨now, p, rfl, hhands, hclient⟩
  · refine ⟨added ++ more, pushed, hserver, hclient, ?_, hrests.1, hrests.2.1, hrests.2.2⟩
    rw [List.take_append_of_le_length hpushed]
    exact h.follows
  · -- The packet had been submitted by the last step of the thread, which has read the clock since.
    obtain ⟨u, hu, haccepted, hsubmitted⟩ := (hhands.of_rested h.rests).step now
    have hlt : pushed.length < rested.history.submitted.length := by
      have hle := hbound u hu
      rw [haccepted, hsubmitted, List.length_append, ← h.rests.obAccepted, ← h.client.length_eq] at hle
      exact hle
    have hlt' : pushed.length < added.length := Nat.lt_of_lt_of_le hlt h.submitted_le
    have hmem : added[pushed.length] ∈ added.take rested.history.submitted.length :=
      List.mem_take_iff_getElem.mpr ⟨pushed.length, by omega, rfl⟩
    have hle : added[pushed.length] ≤ now 0 := Int.le_trans (h.past _ hmem) (hreads.since rfl now rfl 0)
    refine ⟨added ++ more, pushed ++ [now 0], hserver, hclient, ?_, hrests.1, hrests.2.1, hrests.2.2⟩
    rw [List.length_append, List.length_singleton, List.take_append_of_le_length hlt',
      List.take_succ_eq_append_getElem hlt']
    exact List.rel_append h.follows (.cons hle .nil)

theorem Logged.Recorded.step (h : s.Recorded ts added pushed rested)
    (hbound : ∀ act u, allowed act → rested.step act = some u →
      u.history.obAccepted.length ≤ u.history.submitted.length)
    (hallowed : ∀ a ∈ act, allowed a) (hs : s.Step ts act s') :
    ∃ added' pushed' rested', s'.Recorded ts added' pushed' rested' ∧ (rested' = rested ∨ rested' = s'.system) := by
  cases hs with
  | @acts a t time hstep hreads =>
    obtain ⟨added', pushed', hrec⟩ := h.acts (fun u hu => hbound a u (hallowed a rfl) hu) hstep hreads
    refine ⟨added', pushed', _, hrec, ?_⟩
    split
    · exact .inr rfl
    · exact .inl rfl
  | serverLogs hline =>
    refine ⟨added, pushed, rested, ⟨⟨?_, h.server.length_eq, h.server.number, h.server.past⟩, h.client, h.follows,
      h.rests, h.submitted_le, h.past⟩, .inl rfl⟩
    exact (parsePacketLines_append_other ts hline).trans h.server.parsed
  | clientLogs hline =>
    refine ⟨added, pushed, rested, ⟨h.server, ⟨?_, h.client.length_eq, h.client.number⟩, h.follows, h.rests,
      h.submitted_le, h.past⟩, .inl rfl⟩
    exact (parsePacketLines_append_other ts hline).trans h.client.parsed

theorem Logged.Step.system_run (hs : s.Step ts act s') (hallowed : ∀ a ∈ act, allowed a)
    (h : System.AllowedRun allowed s₀ s.system) : System.AllowedRun allowed s₀ s'.system := by
  cases hs with
  | acts hstep _ => exact h.tail (hallowed _ rfl) hstep
  | serverLogs => exact h
  | clientLogs => exact h

omit [RetransmissionBuffer B] [ResequencingBuffer R] in
theorem Logged.recorded_new (packets : List DataPacket) (rtBuffer : B) (rsBuffer : R) :
    (Logged.new (System.new packets rtBuffer rsBuffer) start).Recorded ts [] []
      (System.new packets rtBuffer rsBuffer) where
  server := by
    refine ⟨rfl, rfl, ?_, nofun⟩
    change (0 : UInt16) - 1 + 1 = UInt16.ofNat 0
    decide
  client := ⟨rfl, rfl, rfl⟩
  follows := .nil
  rests := .refl _
  submitted_le := Nat.zero_le _
  past := nofun

/-- What `validate_time_series_data` says about the log files, also while the client's is not complete. -/
structure Logged.Validates (ts : Timestamps) (packets : List DataPacket) (s : Logged B R) : Prop where
  added : (parseServerLogfile ts s.serverLog).length = s.system.history.submitted.length
  pushed : (parseClientLogfile ts s.clientLog).length = s.system.history.obAccepted.length
  so_far : validateTimeSeriesData
    ((parseServerLogfile ts s.serverLog).take (parseClientLogfile ts s.clientLog).length)
    (parseClientLogfile ts s.clientLog) = 0
  complete : s.system.history.obAccepted.length = packets.length →
    validateTimeSeriesData (parseServerLogfile ts s.serverLog) (parseClientLogfile ts s.clientLog) = 0

omit [RetransmissionBuffer B] [ResequencingBuffer R] in
theorem Logged.Recorded.validates {packets : List DataPacket} (h : s.Recorded ts added pushed rested)
    (hsubmitted : s.system.history.submitted.length ≤ packets.length) : s.Validates ts packets := by
  have hfollows := validateTimeSeriesData_eq_zero (timeSeries_follows h.follows 0)
  refine ⟨?_, ?_, ?_, fun hcomplete => ?_⟩
  · rw [h.server.parsed, length_timeSeries, h.server.length_eq]
  · rw [h.client.parsed, length_timeSeries, h.client.length_eq]
  · rw [h.server.parsed, h.client.parsed, length_timeSeries, timeSeries_take]
    exact hfollows
  · have hall : added.length ≤ pushed.length := by
      rw [h.server.length_eq, h.client.length_eq]
      omega
    rw [h.server.parsed, h.client.parsed]
    rwa [List.take_of_length_le hall] at hfollows

theorem Logged.Run.validates {packets : List DataPacket} {rtBuffer : B} {rsBuffer : R}
    (hbound : ∀ t, System.AllowedRun allowed (System.new packets rtBuffer rsBuffer) t →
      t.history.obAccepted.length ≤ t.history.submitted.length ∧ t.history.submitted.length ≤ packets.length)
    (h : Logged.Run ts allowed (System.new packets rtBuffer rsBuffer) start s) : s.Validates ts packets := by
  have hinv : System.AllowedRun allowed (System.new packets rtBuffer rsBuffer) s.system ∧
      ∃ added pushed rested, s.Recorded ts added pushed rested ∧
        System.AllowedRun allowed (System.new packets rtBuffer rsBuffer) rested := by
    refine Runs.Reaches.invariant (P := fun s =>
      System.AllowedRun allowed (System.new packets rtBuffer rsBuffer) s.system ∧
        ∃ added pushed rested, s.Recorded ts added pushed rested ∧
          System.AllowedRun allowed (System.new packets rtBuffer rsBuffer) rested) h
      ⟨.refl, [], [], _, Logged.recorded_new packets rtBuffer rsBuffer, .refl⟩ ?_
    rintro t act u ⟨hrun, added, pushed, rested, hrec, hrested⟩ hallowed hs
    have hrun' := hs.system_run hallowed hrun
    obtain ⟨added', pushed', rested', hrec', rfl | rfl⟩ :=
      hrec.step (fun act v hact hv => (hbound v (hrested.tail hact hv)).1) hallowed hs
    · exact ⟨hrun', added', pushed', _, hrec', hrested⟩
    · exact ⟨hrun', added', pushed', _, hrec', hrun'⟩
  obtain ⟨hrun, added, pushed, rested, hrec, -⟩ := hinv
  exact hrec.validates (hbound s.system hrun).2

theorem Logged.extends (hle : s.rsTime ≤ s.time) {t : System B R × Time}
    (ht : Runs.Reaches System.TimedStep (fun _ act => allowed act) (s.system, s.time) t) :
    ∃ u, Runs.Reaches (Logged.Step ts) (fun _ act => ∀ a ∈ act, allowed a) s u ∧
      u.system = t.1 ∧ u.time = t.2 ∧ u.rsTime ≤ u.time := by
  induction ht with
  | refl => exact ⟨s, .refl, rfl, rfl, hle⟩
  | @tail t v act _ hact hs ih =>
    obtain ⟨u, hu, hsystem, htime, hrs⟩ := ih
    obtain ⟨hstep, hT, hreads⟩ := hs
    rw [← hsystem] at hstep
    rw [← htime] at hT hreads
    have hsince : u.Reads act v.2 :=
      ⟨hT, fun now hnow i => ((hreads now hnow).2 i).2,
        fun _ now hnow i => Int.le_trans hrs ((hreads now hnow).2 i).1⟩
    refine ⟨_, hu.tail ?_ (.acts hstep hsince), rfl, rfl, ?_⟩
    · rintro a ⟨⟩
      exact hact
    · dsimp only
      split
      · exact Int.le_refl _
      · exact Int.le_trans hrs hT

end Runs

theorem Carried.counts {B R : Type} [RetransmissionBuffer B] [LawfulRetransmission B]
    [ResequencingBuffer R] [ResequencingView R] [LawfulResequencing R] {packets : List DataPacket}
    {s : System B R} (h : Carried packets s) (hf : ∀ p ∈ packets, p.Framed) (ho : Ordered s) :
    s.history.obAccepted.length ≤ s.history.submitted.length ∧ s.history.submitted.length ≤ packets.length := by
  have hle := (h.deliversInOrder hf ho).length_le
  rw [List.length_map, List.length_map, outgoing_length] at hle
  refine ⟨hle, ?_⟩
  rw [← h.submitted, List.length_append]
  exact Nat.le_add_right _ _

theorem Piped.counts {packets : List DataPacket} {s : System Rt.DummySCTP Rs.DummySCTP} (h : Piped packets s) :
    s.history.obAccepted.length ≤ s.history.submitted.length ∧ s.history.submitted.length ≤ packets.length := by
  have hsent : s.history.obAccepted <+: s.history.firstSent :=
    List.IsPrefix.trans (List.prefix_append _ _) h.handedOver_sent
  have hle : s.history.firstSent <+: outgoing s.history.submitted := by
    rw [h.tx.queued]
    exact List.prefix_append _ _
  have hlength := (hsent.trans hle).length_le
  rw [outgoing_length] at hlength
  refine ⟨hlength, ?_⟩
  rw [← h.submitted, List.length_append]
  exact Nat.le_add_right _ _

end ArqBenchmark
