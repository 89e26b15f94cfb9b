import ArqBenchmark.Completion
import ArqBenchmark.Launcher
import ArqBenchmark.LoggedRuns

namespace ArqBenchmark

open DataPacket LawfulRetransmission LiveRetransmission LiveResequencing Launcher

section Runs

variable {B R : Type} [RetransmissionBuffer B] [ResequencingBuffer R] {ts : Timestamps}
  {allowed : System B R → Action → Prop} {s₀ : System B R} {s : Logged B R} {start : Time}

theorem Logged.system_reaches
    (h : Runs.Reaches (Logged.Step ts) (fun s act => ∀ a ∈ act, allowed s.system a) (.new s₀ start) s) :
    Runs.Reaches (fun s act s' => System.step s act = some s') allowed s₀ s.system := by
  induction h with
  | refl => exact .refl
  | tail _ hallowed hs ih =>
    cases hs with
    | acts hstep _ => exact ih.tail (hallowed _ rfl) hstep
    | serverLogs => exact ih
    | clientLogs => exact ih

theorem Logged.rsTime_le (h : Runs.Reachable (Logged.Step ts) (.new s₀ start) s) : s.rsTime ≤ s.time := by
  refine Runs.Reaches.invariant (P := fun s : Logged B R => s.rsTime ≤ s.time) h (Int.le_refl start) ?_
  rintro t act u hle - hs
  cases hs with
  | @acts act s' time _ hreads =>
    dsimp only
    split
    · exact Int.le_refl _
    · exact Int.le_trans hle hreads.le
  | serverLogs => exact hle
  | clientLogs => exact hle

end Runs

structure Logged.Finished {B R : Type} [RetransmissionBuffer B] [ResequencingBuffer R] (ts : Timestamps)
    (packets : List DataPacket) (s : Logged B R) : Prop where
  completed : System.Completed packets s.system
  length_eq : (parseClientLogfile ts s.clientLog).length = packets.length
  valid : validateTimeSeriesData (parseServerLogfile ts s.serverLog) (parseClientLogfile ts s.clientLog) = 0

theorem Logged.Validates.finished {B R : Type} [RetransmissionBuffer B] [ResequencingBuffer R] {ts : Timestamps}
    {packets : List DataPacket} {s : Logged B R} (h : s.Validates ts packets)
    (hcompleted : System.Completed packets s.system) : s.Finished ts packets := by
  have hlength := congrArg List.length hcompleted.delivered
  rw [List.length_map, List.length_map, outgoing_length] at hlength
  exact ⟨hcompleted, h.pushed.trans hlength, h.complete hlength⟩

abbrev Logged.KeepingRun {B R : Type} [RetransmissionBuffer B] [ResequencingBuffer R] (ts : Timestamps)
    (s₀ : System B R) (start : Time) (s : Logged B R) : Prop :=
  Runs.Reaches (Logged.Step ts) (fun s act => ∀ a ∈ act, s.system.KeepsEndAck a) (.new s₀ start) s

abbrev Logged.CanFinish {B R : Type} [RetransmissionBuffer B] [ResequencingBuffer R] (ts : Timestamps)
    (packets : List DataPacket) (s : Logged B R) : Prop :=
  Runs.CanReach (Logged.Step ts) (fun _ act => ∀ a ∈ act, a.Quiet) s (Logged.Finished ts packets)

theorem Logged.KeepingRun.canFinish {B R : Type} [RetransmissionBuffer B] [LawfulRetransmission B]
    [ResequencingBuffer R] [ResequencingView R] [LawfulResequencing R] {ts : Timestamps} {packets : List DataPacket}
    {rtBuffer : B} {rsBuffer : R} {start : Time} {s : Logged B R} (hi : Initial rtBuffer rsBuffer)
    (hf : ∀ p ∈ packets, p.Framed) (hn : packets.length < 65536)
    (hs : s.KeepingRun ts (System.new packets rtBuffer rsBuffer) start)
    (hcan : s.system.CanReach (System.Completed packets)) : s.CanFinish ts packets := by
  obtain ⟨⟨t, T⟩, ht, hcompleted⟩ := hcan s.time
  obtain ⟨u, hu, rfl, -, -⟩ := Logged.extends (Logged.rsTime_le hs.reachable) ht
  have hrun : Logged.Run ts (fun _ => True) (System.new packets rtBuffer rsBuffer) start u :=
    (hs.mono (fun _ _ _ _ _ => trivial)).trans (hu.mono (fun _ _ _ _ _ => trivial))
  have hvalid : u.Validates ts packets := by
    refine hrun.validates (fun v hv => ?_)
    obtain ⟨hc, ho⟩ := System.Run.sound hi hf hn hv
    exact hc.counts hf ho
  exact ⟨u, hu, hvalid.finished hcompleted⟩

/-- The configurations with which a transmission over a lossy network can be completed: the sequence numbers do not
roll over, and the window of the transmitter is not empty. -/
def Launcher.Completable (common : ConfigCommon) (server : ConfigServer) : Prop :=
  let windowSize := (common.windowSize.getD defaultWindowSize).toNat
  match common.arqProtocol with
  | .dummySCTP => False
  | .stopAndWait => server.txPkts.num.toNat + 1 < 2 ^ 16
  | .goBackN => 0 < windowSize ∧ server.txPkts.num.toNat + 1 < 2 ^ 16
  | .selectiveRepeat => 0 < windowSize ∧ server.txPkts.num.toNat + 1 + windowSize < 2 ^ 16

section Benchmark

variable {dist : ℕ → ℕ → Byte} {num size : ℕ} {packets : List DataPacket}

theorem Launcher.Transmitted.transmittable (R : Type) [ResequencingView R] (h : Transmitted dist num packets)
    (hn : num + 1 < 2 ^ 16) (hroom : ResequencingView.early R → num + 1 + size < 2 ^ 16) (hsize : 0 < size) :
    Transmittable R packets size where
  framed p hp := (h.transmitSide p hp).1.framed
  ends := h.endsTransmission
  nonempty := List.ne_nil_of_length_pos (by rw [h.length_eq]; omega)
  short := by rwa [h.length_eq]
  short_early := by rwa [h.length_eq]
  size_pos := hsize

theorem Launcher.startReceiver_answers : Answers (Rs.SelectiveRepeat.new receiveWindowSize firstSequenceNumber) :=
  ⟨by decide, fun hpos => absurd hpos (Nat.lt_irrefl 0)⟩

theorem Logged.KeepingRun.finishes {ts : Timestamps} {common : ConfigCommon} {server : ConfigServer} {start : Time}
    (hcompletable : Completable common server) (htransmitted : Transmitted dist server.txPkts.num.toNat packets)
    {s : Logged (RtBuffer common.arqProtocol) (RsBuffer common.arqProtocol)}
    (hs : s.KeepingRun ts (launch common server packets) start) : s.CanFinish ts packets := by
  obtain ⟨names, names', protocol, windowSize⟩ := common
  cases protocol with
  | dummySCTP => exact hcompletable.elim
  | stopAndWait =>
    have htx := htransmitted.transmittable Rs.StopAndWait hcompletable False.elim Nat.one_pos
    exact hs.canFinish (initial_stopAndWait _) htx.framed htx.short (System.can_complete htx (initial_stopAndWait _)
      (Rt.StopAndWait.new_keepsFrom _) rfl trivial (Logged.system_reaches hs))
  | goBackN =>
    obtain ⟨hN, hshort⟩ := hcompletable
    have htx := htransmitted.transmittable Rs.GoBackN hshort False.elim hN
    exact hs.canFinish (initial_goBackN _ _) htx.framed htx.short (System.can_complete htx (initial_goBackN _ _)
      (Rt.CircularBuffer.new_aligned hN _ firstSequenceNumber) rfl
      (fun hpos => absurd hpos (Nat.lt_irrefl 0)) (Logged.system_reaches hs))
  | selectiveRepeat =>
    obtain ⟨hN, hshort⟩ := hcompletable
    have htx := htransmitted.transmittable Rs.SelectiveRepeat (by omega) (fun _ => hshort) hN
    exact hs.canFinish (initial_selectiveRepeat _ _ _) htx.framed htx.short (System.can_complete htx
      (initial_selectiveRepeat _ _ _) (Rt.CircularBuffer.new_aligned hN _ firstSequenceNumber) rfl
      startReceiver_answers (Logged.system_reaches hs))

end Benchmark

end ArqBenchmark
