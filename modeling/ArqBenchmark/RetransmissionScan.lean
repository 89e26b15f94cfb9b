import ArqBenchmark.AckOverrun
import ArqBenchmark.RetransmissionLaws

namespace ArqBenchmark.Rt

open BoundedFifo OverCircularBuffer RotatedRing

def tryGetPacketSpans {B : Type} [RetransmissionBuffer B] (now : Clock) :
    ℕ → B → Except Fault (List (Option (List Byte)) × B)
  | 0, b => .ok ([], b)
  | n + 1, b => do
    let (span, b) ← RetransmissionBuffer.tryGetPacketSpan b now
    let (spans, b) ← tryGetPacketSpans now n b
    pure (span :: spans, b)

namespace CircularBuffer

variable {b b' : CircularBuffer} {q q' : List TransmitBufferObject} {t : Time}

def timedOut (b : CircularBuffer) (t : Time) : List TransmitBufferObject :=
  b.packets.filter (isPacketTimedOut b.timeoutInterval t)

def stampedAt (b : CircularBuffer) (t : Time) : CircularBuffer :=
  { b with buffer := b.buffer.map (Option.map fun o =>
      if isPacketTimedOut b.timeoutInterval t o then o.updateLastTxTime t else o) }

theorem isPacketTimedOut_now {timeoutInterval : ℤ} (ht : 0 ≤ timeoutInterval) (t : Time)
    (o : TransmitBufferObject) :
    isPacketTimedOut timeoutInterval t (o.updateLastTxTime t) = false := by
  simp only [isPacketTimedOut, TransmitBufferObject.updateLastTxTime, sub_self, Int.zero_tdiv,
    decide_eq_false_iff_not, Int.not_lt]
  exact ht

theorem Holds.stampedAt (h : b.Holds q) (t : Time) :
    (b.stampedAt t).Holds (touchAll (isPacketTimedOut b.timeoutInterval t) (·.updateLastTxTime t) q) := by
  refine h.of_buffer ?_ ?_ ?_
  · rw [List.length_map, h.length_eq]
  · rw [← List.map_rotate, h.view, padded, padded, List.map_append, List.map_replicate, touchAll,
      List.length_map, List.map_map, List.map_map]
    rfl
  · rw [touchAll, List.length_map]

theorem Holds.buffer_eq {buffer buffer' : List (Option TransmitBufferObject)}
    (h : ({ b with buffer := buffer } : CircularBuffer).Holds q)
    (h' : ({ b with buffer := buffer' } : CircularBuffer).Holds q) : buffer = buffer' :=
  List.rotate_injective b.startIdx (h.view.trans h'.view.symm)

end CircularBuffer

section Scan

variable {B : Type} [RetransmissionBuffer B] [OverCircularBuffer B] {b : B} {q : List TransmitBufferObject}

open CircularBuffer

theorem tryGetPacketSpan_none (h : (window b).Holds q) {t : Time}
    (hdue : q.filter (isPacketTimedOut (window b).timeoutInterval t) = []) :
    RetransmissionBuffer.tryGetPacketSpan b (fun _ => t) = .ok (none, b) := by
  obtain ⟨buffer, htry, hw⟩ := CircularBuffer.tryGetPacketSpan_eq h (fun _ => t)
  have hnone : touchFirst (fun _ => isPacketTimedOut (window b).timeoutInterval t)
      (fun _ o => o.updateLastTxTime t) q = none := (touchFirst_of_none_due hdue).1
  have hfirst : firstTimedOut (window b).timeoutInterval (fun _ => t) q = none := hnone
  rw [hfirst] at htry hw
  obtain rfl := hw.buffer_eq (b := window b) h
  rw [tryGetPacketSpan_window, htry]
  change Except.ok (none, ofWindow (window b)) = _
  rw [ofWindow_window]

theorem tryGetPacketSpan_some (h : (window b).Holds q) (ht : 0 ≤ (window b).timeoutInterval) {t : Time}
    {o : TransmitBufferObject} {rest : List TransmitBufferObject}
    (hdue : q.filter (isPacketTimedOut (window b).timeoutInterval t) = o :: rest) :
    ∃ buffer q', RetransmissionBuffer.tryGetPacketSpan b (fun _ => t) =
        .ok (some o.packet.getReadSpan, ofWindow { window b with buffer := buffer }) ∧
      ({ window b with buffer := buffer } : CircularBuffer).Holds q' ∧
      q'.filter (isPacketTimedOut (window b).timeoutInterval t) = rest ∧
      touchAll (isPacketTimedOut (window b).timeoutInterval t) (·.updateLastTxTime t) q' =
        touchAll (isPacketTimedOut (window b).timeoutInterval t) (·.updateLastTxTime t) q := by
  obtain ⟨buffer, htry, hw⟩ := CircularBuffer.tryGetPacketSpan_eq h (fun _ => t)
  obtain ⟨q', hfirst, hrest, hall⟩ := touchFirst_of_due (isPacketTimedOut_now ht t) hdue
  have hsome : firstTimedOut (window b).timeoutInterval (fun _ => t) q = some (o, q') := hfirst
  rw [hsome] at htry hw
  refine ⟨buffer, q', ?_, hw, hrest, hall⟩
  rw [tryGetPacketSpan_window, htry]
  rfl

theorem tryGetPacketSpans_eq (h : (window b).Holds q) (ht : 0 ≤ (window b).timeoutInterval) (t : Time) :
    ∃ buffer, tryGetPacketSpans (fun _ => t) (q.filter (isPacketTimedOut (window b).timeoutInterval t)).length b =
        .ok ((q.filter (isPacketTimedOut (window b).timeoutInterval t)).map (fun o => some o.packet.getReadSpan),
          ofWindow { window b with buffer := buffer }) ∧
      ({ window b with buffer := buffer } : CircularBuffer).Holds
        (touchAll (isPacketTimedOut (window b).timeoutInterval t) (·.updateLastTxTime t) q) := by
  -- Each call serves the first packet that is due and leaves the others due.
  generalize hdue : q.filter (isPacketTimedOut (window b).timeoutInterval t) = due
  induction due generalizing b q with
  | nil =>
    refine ⟨(window b).buffer, ?_, ?_⟩
    · change Except.ok ([], b) = .ok ([], ofWindow (window b))
      rw [ofWindow_window]
    · rw [(touchFirst_of_none_due hdue).2]
      exact h
  | cons o rest ih =>
    obtain ⟨buffer, q', htry, hw, hrest, hall⟩ := tryGetPacketSpan_some h ht hdue
    have hwindow :
        window (ofWindow { window b with buffer := buffer } : B) = { window b with buffer := buffer } :=
      window_ofWindow _
    obtain ⟨buffer', hspans, hw'⟩ := ih (b := ofWindow { window b with buffer := buffer }) (q := q')
      (by rwa [hwindow]) (by rwa [hwindow]) (by rwa [hwindow])
    rw [hwindow] at hspans hw'
    refine ⟨buffer', ?_, ?_⟩
    · simp only [List.length_cons, tryGetPacketSpans, htry, hspans, Loops.ok_bind]
      rfl
    · rw [← hall]
      exact hw'

/-- The scan at `t`: every packet that has timed out is transmitted once, in the order of the slots, then
none, and nothing but the time of their last transmission has changed. -/
structure ServesTimedOut (b : B) (t : Time) (b' : B) : Prop where
  spans : tryGetPacketSpans (fun _ => t) ((window b).timedOut t).length b =
    .ok (((window b).timedOut t).map (fun o => some o.packet.getReadSpan), b')
  done : RetransmissionBuffer.tryGetPacketSpan b' (fun _ => t) = .ok (none, b')
  window_eq : window b' = (window b).stampedAt t

theorem servesTimedOut (h : (window b).Holds q) (ht : 0 ≤ (window b).timeoutInterval) (t : Time) :
    ServesTimedOut b t (ofWindow ((window b).stampedAt t)) := by
  obtain ⟨buffer, hspans, hw⟩ := tryGetPacketSpans_eq h ht t
  obtain rfl := hw.buffer_eq (h.stampedAt t)
  have hwindow : window (ofWindow ((window b).stampedAt t) : B) = (window b).stampedAt t := window_ofWindow _
  refine ⟨?_, ?_, hwindow⟩
  · rw [timedOut, h.packets_eq]
    exact hspans
  · refine tryGetPacketSpan_none (by rw [hwindow]; exact h.stampedAt t) ?_
    rw [hwindow]
    exact filter_touchAll (isPacketTimedOut_now ht t) q

def addedPackets (calls : List RtCall) : List TransmitBufferObject :=
  calls.filterMap fun
    | .addPacket packet => some packet
    | _ => none

def HoldsLast (timeoutInterval : ℤ) (added : List TransmitBufferObject) (b : B) : Prop :=
  (window b).timeoutInterval = timeoutInterval ∧ ∃ q, (window b).Holds q ∧
    q.map TransmitBufferObject.held <:+ added.map TransmitBufferObject.held

variable {timeout : ℤ} {added : List TransmitBufferObject} {b' : B}

theorem HoldsLast.addPacket (h : HoldsLast timeout added b) {o : TransmitBufferObject}
    (hb : transmitterCall b (.addPacket o) = some b') : HoldsLast timeout (added ++ [o]) b' := by
  obtain ⟨htime, q, hq, hlast⟩ := h
  rw [transmitterCall] at hb
  split at hb
  next hready =>
    rw [readyForNewPacket_window] at hready
    obtain ⟨w, hadd, hw, -, htime', -⟩ := addPacket_holds hq hready (full B) o
    rw [addPacket_window, hadd] at hb
    obtain rfl : ofWindow w = b' := Option.some.inj hb
    obtain ⟨before, hbefore⟩ := hlast
    rw [HoldsLast, window_ofWindow]
    refine ⟨htime'.trans htime, q ++ [o], hw, before, ?_⟩
    rw [List.map_append, List.map_append, ← List.append_assoc, hbefore]
  next => cases hb

theorem HoldsLast.tryGetPacketSpan (h : HoldsLast timeout added b) {now : Clock}
    (hb : transmitterCall b (.tryGetPacketSpan now) = some b') : HoldsLast timeout added b' := by
  obtain ⟨htime, q, hq, hlast⟩ := h
  obtain ⟨buffer, htry, hw⟩ := CircularBuffer.tryGetPacketSpan_eq hq now
  obtain rfl := Option.some.inj hb
  rw [HoldsLast, call_tryGetPacketSpan htry, window_ofWindow]
  refine ⟨htime, _, hw, ?_⟩
  rw [(held_firstTimedOut _ now q).1]
  exact hlast

theorem HoldsLast.acknowledgePacket (h : HoldsLast timeout added b) {a : SequenceNumber}
    (hb : transmitterCall b (.acknowledgePacket a) = some b') : HoldsLast timeout added b' := by
  obtain ⟨htime, q, hq, hlast⟩ := h
  obtain ⟨w, k, hack, hw, -, htime'⟩ := acknowledgePacket_holds hq a
  obtain rfl := Option.some.inj hb
  rw [HoldsLast, call_acknowledgePacket hack, window_ofWindow]
  refine ⟨htime'.trans htime, _, hw, ?_⟩
  rw [List.map_drop]
  exact (List.drop_suffix k _).trans hlast

theorem HoldsLast.transmitterCall (h : HoldsLast timeout added b) {c : RtCall}
    (hb : transmitterCall b c = some b') :
    HoldsLast timeout (added ++ addedPackets [c]) b' := by
  cases c with
  | addPacket o => exact h.addPacket hb
  | tryGetPacketSpan now =>
    change HoldsLast timeout (added ++ []) b'
    rw [List.append_nil]
    exact h.tryGetPacketSpan hb
  | acknowledgePacket a =>
    change HoldsLast timeout (added ++ []) b'
    rw [List.append_nil]
    exact h.acknowledgePacket hb
  | readyForNewPacket =>
    obtain rfl := Option.some.inj hb
    change HoldsLast timeout (added ++ []) b
    rwa [List.append_nil]
  | packetsPending =>
    obtain rfl := Option.some.inj hb
    change HoldsLast timeout (added ++ []) b
    rwa [List.append_nil]

theorem HoldsLast.replay (h : HoldsLast timeout added b) {calls : List RtCall}
    (hb : Runs.replay Rt.transmitterCall b calls = some b') :
    HoldsLast timeout (added ++ addedPackets calls) b' := by
  induction calls generalizing b added with
  | nil =>
    obtain rfl := Option.some.inj hb
    change HoldsLast timeout (added ++ []) b
    rwa [List.append_nil]
  | cons c calls ih =>
    obtain ⟨b₁, hb₁, hrest⟩ := Option.bind_eq_some_iff.mp hb
    have hsplit : addedPackets (c :: calls) = addedPackets [c] ++ addedPackets calls :=
      List.filterMap_append (l := [c])
    rw [hsplit, ← List.append_assoc]
    exact ih (h.transmitterCall hb₁) hrest

/-- After any calls of the transmitter the stored packets stand in the order in which they were added, and a scan
serves those that have timed out. -/
def ScanServes (calls : List RtCall) (t : Time) (b : B) : Prop :=
  (window b).packets.map TransmitBufferObject.held <:+ (addedPackets calls).map TransmitBufferObject.held ∧
    ∃ b', ServesTimedOut b t b'

theorem HoldsLast.scanServes (h0 : HoldsLast timeout [] b) (ht : 0 ≤ timeout) {calls : List RtCall}
    (hb : Runs.replay Rt.transmitterCall b calls = some b') (t : Time) : ScanServes calls t b' := by
  obtain ⟨htime, q, hq, hlast⟩ := h0.replay hb
  refine ⟨?_, _, servesTimedOut hq (htime ▸ ht) t⟩
  rw [hq.packets_eq]
  exact hlast

end Scan

theorem scan_serves_timed_out (windowSize : UInt16) (hw : 0 < windowSize.toNat) (timeout : ℤ) (ht : 0 ≤ timeout)
    (first : SequenceNumber) (calls : List RtCall) (t : Time) :
    (∀ b, Runs.replay transmitterCall (GoBackN.new windowSize timeout first) calls = some b →
      ScanServes calls t b) ∧
    (∀ b, Runs.replay transmitterCall (SelectiveRepeat.new windowSize timeout first) calls = some b →
      ScanServes calls t b) := by
  have hnew := CircularBuffer.new_holds hw timeout first
  constructor
  · intro b hb
    have h0 : HoldsLast timeout [] (GoBackN.new windowSize timeout first) := ⟨rfl, [], hnew, List.suffix_rfl⟩
    exact h0.scanServes ht hb t
  · intro b hb
    have h0 : HoldsLast timeout [] (SelectiveRepeat.new windowSize timeout first) :=
      ⟨rfl, [], hnew, List.suffix_rfl⟩
    exact h0.scanServes ht hb t

def agedCalls : List RtCall :=
  [.addPacket (samplePacket 0), .addPacket (samplePacket 1), .addPacket (samplePacket 2), .acknowledgePacket 0,
    .addPacket ⟨⟨⟨1, 3, 0⟩, [1, 0, 3, 0, 0]⟩, ⟨0, 9000, 3⟩⟩]

theorem scan_serves_timed_out_run :
    ∃ b, Runs.replay transmitterCall (GoBackN.new 3 5 0) agedCalls = some b ∧
      (b.window.timedOut 10000).length = 2 ∧
      ScanServes agedCalls 10000 b := by
  have hrun : ((Runs.replay transmitterCall (GoBackN.new 3 5 0) agedCalls).any
      fun b => (b.window.timedOut 10000).length == 2) = true := by
    decide +kernel
  obtain ⟨b, hb, hcount⟩ := (Option.any_eq_true _ _).mp hrun
  exact ⟨b, hb, by simpa using hcount,
    (scan_serves_timed_out 3 (by decide) 5 (by decide) 0 agedCalls 10000).1 b hb⟩

end ArqBenchmark.Rt
