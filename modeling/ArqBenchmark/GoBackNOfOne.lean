import ArqBenchmark.DrainedExchange
import ArqBenchmark.QueueRefinement

namespace ArqBenchmark.Rt

/-- What a caller sees who does not read the text of an exception. -/
def RtResult.withoutText : RtResult → RtResult
  | .thrown (.arqProtocolException _) => .thrown (.arqProtocolException "")
  | r => r

structure Numbered where
  buffer : StopAndWait
  next : SequenceNumber

namespace Numbered

def call (s : Numbered) (c : RtCall) : RtResult × Numbered :=
  ((Rt.call s.buffer c).1,
    { buffer := (Rt.call s.buffer c).2
      next := match c with
        | .addPacket _ => if s.buffer.readyForNewPacket then s.next + 1 else s.next
        | _ => s.next })

def InSequence (s : Numbered) : RtCall → Prop
  | .addPacket packet => s.buffer.readyForNewPacket = true → packet.info.sequenceNumber = s.next
  | _ => True

def asWindow (s : Numbered) : CircularBuffer where
  timeoutInterval := s.buffer.timeoutInterval
  windowSize := 1
  buffer := [s.buffer.retransmitPacket]
  startIdx := 0
  nextToAck := if s.buffer.retransmitPacket.isSome then s.next - 1 else s.next
  packetsInBuffer := s.buffer.retransmitPacket.toList.length

variable {timeout : ℤ} {next : SequenceNumber} {p : TransmitBufferObject}

theorem walk_eq {σ β : Type} (s : Numbered) (body : ℕ → σ → Except Fault (σ ⊕ β)) (x : σ) :
    s.asWindow.walk body x = body 0 x := by
  have hnext : modulo (0 + 1) s.asWindow.windowSize.toNat = .ok 0 := modulo_pos Nat.one_pos
  change Loops.doWhile 0 _ _ body 2 0 x = _
  rw [Loops.doWhile]
  rcases hbody : body 0 x with fault | x' | r
  · rfl
  · simp only [Loops.ok_bind, hnext, ↓reduceIte]
    rfl
  · rfl

theorem addPacket_free (full : String) :
    (asWindow ⟨⟨timeout, none⟩, next⟩).addPacket full p = .ok (asWindow ⟨⟨timeout, some p⟩, next + 1⟩) := by
  have hnext : next + 1 - 1 = next := by simp
  rw [CircularBuffer.addPacket, walk_eq]
  simp only [asWindow, hnext]
  rfl

theorem addPacket_taken (full : String) (o : TransmitBufferObject) :
    (asWindow ⟨⟨timeout, some p⟩, next⟩).addPacket full o = .error (.arqProtocolException full) := by
  rw [CircularBuffer.addPacket, walk_eq]
  rfl

theorem tryGetPacketSpan_eq (s : Numbered) (now : Clock) :
    s.asWindow.tryGetPacketSpan now =
      .ok ((s.buffer.tryGetPacketSpan now).1, asWindow ⟨(s.buffer.tryGetPacketSpan now).2, s.next⟩) := by
  obtain ⟨⟨timeout, _ | p⟩, next⟩ := s
  · rfl
  · have hslot : readAt (asWindow ⟨⟨timeout, some p⟩, next⟩).buffer 0 = .ok (some p) := rfl
    rw [CircularBuffer.tryGetPacketSpan, if_pos (show CircularBuffer.packetsPending _ = true from rfl), walk_eq,
      CircularBuffer.trySlot, hslot, Loops.ok_bind]
    by_cases hdue : isPacketTimedOut timeout (now 0) p = true
    · have hwindow :
          isPacketTimedOut (asWindow ⟨⟨timeout, some p⟩, next⟩).timeoutInterval (now 0) p = true := hdue
      simp only [StopAndWait.tryGetPacketSpan, hdue, hwindow, ↓reduceIte]
      rfl
    · have hwindow :
          ¬ isPacketTimedOut (asWindow ⟨⟨timeout, some p⟩, next⟩).timeoutInterval (now 0) p = true := hdue
      simp only [StopAndWait.tryGetPacketSpan, hdue, hwindow]
      rfl

theorem asWindow_holds (s : Numbered) : s.asWindow.Holds s.buffer.retransmitPacket.toList where
  size_pos := Nat.one_pos
  length_eq := rfl
  start_lt := Nat.one_pos
  view := by
    obtain ⟨⟨timeout, _ | p⟩, next⟩ := s <;> rfl
  count := Nat.le_refl _
  count_lt := Nat.lt_of_le_of_lt Option.length_toList_le (by decide)

theorem eq_asWindow {b : CircularBuffer} (s : Numbered) (h : b.Holds s.buffer.retransmitPacket.toList)
    (hsize : b.windowSize = 1) (htime : b.timeoutInterval = s.buffer.timeoutInterval)
    (hnext : b.nextToAck = s.asWindow.nextToAck) (hcount : b.packetsInBuffer = s.asWindow.packetsInBuffer) :
    b = s.asWindow := by
  obtain ⟨timeout, windowSize, buffer, startIdx, nextToAck, count⟩ := b
  subst hsize htime hnext hcount
  obtain rfl : startIdx = 0 := Nat.lt_one_iff.mp h.start_lt
  have hview : buffer = s.asWindow.buffer := by
    rw [← List.rotate_zero buffer, ← List.rotate_zero s.asWindow.buffer]
    exact h.view.trans s.asWindow_holds.view.symm
  rw [hview]
  rfl

theorem acknowledgePacket_first (timeout : ℤ) (p : TransmitBufferObject) (a : SequenceNumber) :
    (asWindow ⟨⟨timeout, some p⟩, a + 1⟩).acknowledgePacket a = .ok (asWindow ⟨⟨timeout, none⟩, a + 1⟩) := by
  have hfirst : (asWindow ⟨⟨timeout, some p⟩, a + 1⟩).nextToAck = a := by simp [asWindow]
  have hacked : (asWindow ⟨⟨timeout, some p⟩, a + 1⟩).slotsAcked a = 1 := by
    rw [CircularBuffer.slotsAcked, hfirst]
    omega
  obtain ⟨b, hack, hholds, hsize, htime, hnext, hcount⟩ := CircularBuffer.acknowledgePacket_clears
    (asWindow_holds ⟨⟨timeout, some p⟩, a + 1⟩) rfl (a := a) (by rw [hfirst])
    (by rw [hfirst]; exact Nat.lt_succ_self _)
  rw [hacked] at hholds hcount
  have hzero : b.packetsInBuffer = 0 := by
    rw [hcount, show (asWindow ⟨⟨timeout, some p⟩, a + 1⟩).packetsInBuffer = 1 from rfl]
    omega
  rw [hack, eq_asWindow ⟨⟨timeout, none⟩, a + 1⟩ hholds hsize htime hnext hzero]

theorem acknowledgePacket_eq (s : Numbered) (a : SequenceNumber)
    (hs : ∀ o ∈ s.buffer.retransmitPacket, o.info.sequenceNumber = s.next - 1) :
    s.asWindow.acknowledgePacket a = .ok (asWindow ⟨s.buffer.acknowledgePacket a, s.next⟩) := by
  have hholds := s.asWindow_holds
  obtain ⟨⟨timeout, _ | p⟩, next⟩ := s
  · exact CircularBuffer.acknowledgePacket_idle rfl a
  · obtain rfl : next = p.info.sequenceNumber + 1 := by
      rw [hs p rfl]
      simp
    have hfirst : (asWindow ⟨⟨timeout, some p⟩, p.info.sequenceNumber + 1⟩).nextToAck = p.info.sequenceNumber :=
      (hs p rfl).symm
    by_cases ha : a = p.info.sequenceNumber
    · rw [ha, acknowledgePacket_first]
      simp only [StopAndWait.acknowledgePacket, ↓reduceIte]
    · -- Any other ACK is stale or behind the range guard.
      have hne : a.toNat ≠ p.info.sequenceNumber.toNat := fun h => ha (UInt16.toNat_inj.mp h)
      simp only [StopAndWait.acknowledgePacket, ha, ↓reduceIte]
      rcases Nat.lt_or_gt_of_ne hne with hlt | hgt
      · exact CircularBuffer.acknowledgePacket_stale hholds (by rwa [hfirst])
      · exact CircularBuffer.acknowledgePacket_beyond (by rw [hfirst]; exact hgt)

/-- The window stands for the buffer, whose packet has the sequence number before the next one. -/
def Mirrors (b : GoBackN) (s : Numbered) : Prop :=
  b.window = s.asWindow ∧ ∀ o ∈ s.buffer.retransmitPacket, o.info.sequenceNumber = s.next - 1

variable {b : GoBackN} {s : Numbered}

theorem Mirrors.addPacket (h : Mirrors b s) (o : TransmitBufferObject) (ho : s.InSequence (.addPacket o)) :
    (Rt.call b (.addPacket o)).1.withoutText = (s.call (.addPacket o)).1.withoutText ∧
      Mirrors (Rt.call b (.addPacket o)).2 (s.call (.addPacket o)).2 := by
  obtain ⟨window⟩ := b
  obtain ⟨rfl, hs⟩ := h
  obtain ⟨⟨timeout, _ | p⟩, next⟩ := s
  · rw [call_addPacket (addPacket_free _)]
    refine ⟨rfl, rfl, fun x hx => ?_⟩
    obtain rfl : o = x := Option.some.inj hx
    rw [ho rfl]
    simp [Numbered.call, StopAndWait.readyForNewPacket]
  · rw [call_addPacket_error (addPacket_taken _ o)]
    exact ⟨rfl, rfl, hs⟩

theorem Mirrors.tryGetPacketSpan (h : Mirrors b s) (now : Clock) :
    (Rt.call b (.tryGetPacketSpan now)).1 = (s.call (.tryGetPacketSpan now)).1 ∧
      Mirrors (Rt.call b (.tryGetPacketSpan now)).2 (s.call (.tryGetPacketSpan now)).2 := by
  obtain ⟨window⟩ := b
  obtain ⟨rfl, hs⟩ := h
  rw [call_tryGetPacketSpan (s.tryGetPacketSpan_eq now)]
  refine ⟨rfl, rfl, fun x hx => ?_⟩
  obtain ⟨⟨timeout, _ | p⟩, next⟩ := s
  · cases hx
  · simp only [Numbered.call, Rt.call, RetransmissionBuffer.tryGetPacketSpan,
      StopAndWait.tryGetPacketSpan] at hx
    split at hx
    · obtain rfl := Option.some.inj hx
      exact hs p rfl
    · exact hs x hx

theorem Mirrors.acknowledgePacket (h : Mirrors b s) (a : SequenceNumber) :
    (Rt.call b (.acknowledgePacket a)).1 = (s.call (.acknowledgePacket a)).1 ∧
      Mirrors (Rt.call b (.acknowledgePacket a)).2 (s.call (.acknowledgePacket a)).2 := by
  obtain ⟨window⟩ := b
  obtain ⟨rfl, hs⟩ := h
  rw [call_acknowledgePacket (s.acknowledgePacket_eq a hs)]
  refine ⟨rfl, rfl, fun x hx => ?_⟩
  obtain ⟨⟨timeout, _ | p⟩, next⟩ := s
  · cases hx
  · simp only [Numbered.call, Rt.call, RetransmissionBuffer.acknowledgePacket,
      StopAndWait.acknowledgePacket] at hx
    split at hx
    · cases hx
    · exact hs x hx

theorem Mirrors.call (h : Mirrors b s) (c : RtCall) (hc : s.InSequence c) :
    (Rt.call b c).1.withoutText = (s.call c).1.withoutText ∧ Mirrors (Rt.call b c).2 (s.call c).2 := by
  cases c with
  | addPacket o => exact h.addPacket o hc
  | tryGetPacketSpan now => exact ⟨congrArg _ (h.tryGetPacketSpan now).1, (h.tryGetPacketSpan now).2⟩
  | acknowledgePacket a => exact ⟨congrArg _ (h.acknowledgePacket a).1, (h.acknowledgePacket a).2⟩
  | readyForNewPacket =>
    refine ⟨?_, h⟩
    obtain ⟨window⟩ := b
    obtain ⟨rfl, -⟩ := h
    obtain ⟨⟨timeout, _ | p⟩, next⟩ := s <;> rfl
  | packetsPending =>
    refine ⟨?_, h⟩
    obtain ⟨window⟩ := b
    obtain ⟨rfl, -⟩ := h
    obtain ⟨⟨timeout, _ | p⟩, next⟩ := s <;> rfl

theorem observe_eq (s : Numbered) (calls : List RtCall) :
    Runs.observe call s calls = Runs.observe Rt.call s.buffer calls :=
  Runs.observe_eq_of_simulation (S := fun s b => s.buffer = b)
    (by
      rintro s _ c rfl -
      exact ⟨rfl, rfl⟩) rfl (Runs.alongRun_true _ _)

end Numbered

theorem goBackN_one_observe_eq (timeout : ℤ) (first : SequenceNumber) (calls : List RtCall)
    (hc : Runs.AlongRun (fun s c => some (Numbered.call s c).2) Numbered.InSequence
      ⟨.new timeout, first⟩ calls) :
    (Runs.observe call (GoBackN.new 1 timeout first) calls).map RtResult.withoutText =
      (Runs.observe call (StopAndWait.new timeout) calls).map RtResult.withoutText := by
  have hnumbered := (Numbered.observe_eq ⟨.new timeout, first⟩ calls).symm
  rw [hnumbered, Runs.observe_map, Runs.observe_map]
  exact Runs.observe_eq_of_simulation (S := Numbered.Mirrors)
    (fun b s c h ha => h.call c ha) ⟨rfl, fun o ho => by cases ho⟩ hc

end ArqBenchmark.Rt

namespace ArqBenchmark

theorem go_back_n_of_one_is_stop_and_wait (timeout : ℤ) (first : SequenceNumber) :
    (∀ calls, Runs.AlongRun (fun s c => some (Rt.Numbered.call s c).2) Rt.Numbered.InSequence
        ⟨.new timeout, first⟩ calls →
      (Runs.observe Rt.call (Rt.GoBackN.new 1 timeout first) calls).map Rt.RtResult.withoutText =
        (Runs.observe Rt.call (Rt.StopAndWait.new timeout) calls).map Rt.RtResult.withoutText) ∧
    (∀ packets fuel, ∃ gs ss, exchanges (fuel + 2) (Rs.GoBackN.new first) packets = .ok gs ∧
      exchanges (fuel + 2) (Rs.StopAndWait.new first) packets = .ok ss ∧
      gs.map Exchange.onAccept = ss.map Exchange.onAccept) :=
  ⟨fun calls hc => Rt.goBackN_one_observe_eq timeout first calls hc,
    fun packets fuel => Rs.goBackN_exchanges_eq fuel first false packets⟩

def rollOverCalls : List Rt.RtCall :=
  [.addPacket (Rt.samplePacket 65535), .addPacket (Rt.samplePacket 0), .acknowledgePacket 65535,
    .addPacket (Rt.samplePacket 0), .tryGetPacketSpan (fun _ => 6001), .acknowledgePacket 65535,
    .packetsPending]

theorem go_back_n_of_one_is_stop_and_wait_run :
    (Runs.observe Rt.call (Rt.GoBackN.new 1 5 65535) rollOverCalls).map Rt.RtResult.withoutText =
      [.done, .thrown (.arqProtocolException ""), .done, .done, .span (some [1, 0, 0, 0, 0]), .done,
        .flag true] := by
  refine ((go_back_n_of_one_is_stop_and_wait 5 65535).1 rollOverCalls ?_).trans (by decide)
  simp [rollOverCalls, Runs.AlongRun, Rt.Numbered.InSequence, Rt.Numbered.call, Rt.call, Rt.samplePacket,
    Rt.StopAndWait.new, RetransmissionBuffer.addPacket, Rt.StopAndWait.addPacket,
    Rt.StopAndWait.readyForNewPacket]

end ArqBenchmark
