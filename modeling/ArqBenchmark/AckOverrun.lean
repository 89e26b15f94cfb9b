import ArqBenchmark.QueueRefinement

namespace ArqBenchmark.Rt

open RotatedRing OverCircularBuffer

namespace CircularBuffer

variable {b : CircularBuffer} {q : List TransmitBufferObject}

def stored (b : CircularBuffer) : ℕ := b.buffer.countP Option.isSome

theorem Holds.slots_perm (h : b.Holds q) :
    b.buffer.Perm (padded b.windowSize.toNat q) :=
  h.view ▸ (List.rotate_perm b.buffer b.startIdx).symm

theorem Holds.stored_eq (h : b.Holds q) : b.stored = q.length := by
  rw [stored, h.slots_perm.countP_eq, padded, List.countP_append, List.countP_map,
    List.countP_eq_length.mpr (by simp), List.countP_replicate]
  rfl

theorem Holds.free_iff (h : b.Holds q) : none ∈ b.buffer ↔ q.length < b.windowSize.toNat := by
  rw [h.slots_perm.mem_iff, padded, List.mem_append, List.mem_replicate]
  simp only [List.mem_map, reduceCtorEq, and_false, exists_false, false_or, and_true]
  omega

def Counted (b : CircularBuffer) : Prop := ∃ q, b.Holds q ∧ b.packetsInBuffer = q.length

theorem Counted.tryGetPacketSpan (h : b.Counted) (now : Clock) :
    ∃ r b', b.tryGetPacketSpan now = .ok (r, b') ∧ b'.Counted := by
  obtain ⟨q, hq, hc⟩ := h
  obtain ⟨buffer, htry, hholds⟩ := tryGetPacketSpan_eq hq now
  refine ⟨_, _, htry, _, hholds, hc.trans ?_⟩
  cases hf : firstTimedOut b.timeoutInterval now q with
  | none => rfl
  | some r =>
    obtain ⟨k, t, -, hset⟩ := firstTimedOut_eq_set hf
    exact (by rw [hset, List.length_set] : r.2.length = q.length).symm

theorem Counted.addPacket (h : b.Counted) (hready : b.readyForNewPacket = true) (full : String)
    (o : TransmitBufferObject) : ∃ b', b.addPacket full o = .ok b' ∧ b'.Counted := by
  obtain ⟨q, hq, hc⟩ := h
  obtain ⟨b', hadd, hholds, -, -, -, hcount⟩ := addPacket_holds hq hready full o
  exact ⟨b', hadd, _, hholds, by rw [hcount, hc, List.length_append, List.length_singleton]⟩

/-- The ACKs that are harmless: nothing is stored, or the packet is stored or older, or the guard
catches the value. -/
def Harmless (b : CircularBuffer) (a : SequenceNumber) : Prop :=
  b.stored = 0 ∨ a.toNat < b.nextToAck.toNat + b.stored ∨
    b.nextToAck.toNat + b.windowSize.toNat ≤ a.toNat

theorem Counted.acknowledgePacket (h : b.Counted) {a : SequenceNumber} (ha : b.Harmless a) :
    ∃ b', b.acknowledgePacket a = .ok b' ∧ b'.Counted ∧
      (b.nextToAck.toNat + b.stored ≤ a.toNat → b' = b) := by
  obtain ⟨q, hq, hc⟩ := h
  have hstored := hq.stored_eq
  by_cases hbeyond : b.nextToAck.toNat + b.windowSize.toNat ≤ a.toNat
  · exact ⟨b, acknowledgePacket_beyond hbeyond, ⟨q, hq, hc⟩, fun _ => rfl⟩
  by_cases hp : b.packetsPending = true
  · -- Some packet is stored and the guard lets the ACK through, so it names a stored packet or an older one.
    have hpos : 0 < b.packetsInBuffer := of_decide_eq_true hp
    have hlt : a.toNat < b.nextToAck.toNat + b.stored := by
      rcases ha with h0 | hlt | hge <;> omega
    by_cases hstale : a.toNat < b.nextToAck.toNat
    · exact ⟨b, acknowledgePacket_stale hq hstale, ⟨q, hq, hc⟩, fun _ => rfl⟩
    · obtain ⟨b', hack, hholds, -, -, -, hcount⟩ := acknowledgePacket_clears hq hp (a := a)
        (by omega) (by omega)
      refine ⟨b', hack, ⟨_, hholds, ?_⟩, fun _ => by omega⟩
      have hmax := hq.count_lt
      rw [hcount, List.length_drop, slotsAcked, hc]
      omega
  · exact ⟨b, acknowledgePacket_idle (by simpa using hp) a, ⟨q, hq, hc⟩, fun _ => rfl⟩

theorem Counted.acknowledgePacket_ne (h : b.Counted) {a : SequenceNumber} (ha : ¬ b.Harmless a) :
    b.nextToAck.toNat + b.stored ≤ a.toNat ∧ b.acknowledgePacket a ≠ .ok b := by
  obtain ⟨q, hq, hc⟩ := h
  have hstored := hq.stored_eq
  have hw := b.windowSize.toNat_lt
  rw [Harmless] at ha
  have hp : b.packetsPending = true := decide_eq_true (by omega)
  obtain ⟨b', hack, -, -, -, -, hcount⟩ := acknowledgePacket_clears hq hp (a := a) (by omega) (by omega)
  -- The counter has changed: it is decremented for every slot that the ACK covers.
  refine ⟨by omega, fun heq => ?_⟩
  obtain rfl : b' = b := Except.ok.inj (hack.symm.trans heq)
  have hmax := hq.count_lt
  rw [slotsAcked] at hcount
  omega

end CircularBuffer

section TransmitterCalls

variable {B : Type} [RetransmissionBuffer B] [OverCircularBuffer B] {b : B}

/-- The calls of the transmit loop: a packet is added only when the buffer is ready for it. -/
def transmitterCall (b : B) : RtCall → Option B
  | .addPacket packet =>
    if RetransmissionBuffer.readyForNewPacket b then (RetransmissionBuffer.addPacket b packet).toOption
    else none
  | c => some (call b c).2

/-- What must hold of every `acknowledgePacket`: an ACK for a packet that was not added yet changes
nothing, and afterwards the counter counts the occupied slots and a free slot can be filled. -/
def AckKeepsWindow (b : B) : RtCall → Prop
  | .acknowledgePacket a =>
    ((window b).nextToAck.toNat + (window b).stored ≤ a.toNat →
      RetransmissionBuffer.acknowledgePacket b a = .ok b) ∧
    ∃ b', RetransmissionBuffer.acknowledgePacket b a = .ok b' ∧
      (window b').packetsInBuffer = (window b').stored ∧
      (none ∈ (window b').buffer → RetransmissionBuffer.readyForNewPacket b' = true ∧
        ∀ o, ∃ b'', RetransmissionBuffer.addPacket b' o = .ok b'')
  | _ => True

def AckHarmless (b : B) : RtCall → Prop
  | .acknowledgePacket a => (window b).Harmless a
  | _ => True

theorem ackKeepsWindow_iff (h : (window b).Counted) (c : RtCall) :
    AckKeepsWindow b c ↔ AckHarmless b c := by
  cases c with
  | acknowledgePacket a =>
    constructor
    · rintro ⟨hsame, -⟩
      by_contra hbad
      obtain ⟨hnew, hne⟩ := h.acknowledgePacket_ne hbad
      have hmap := hsame hnew
      rw [acknowledgePacket_window] at hmap
      obtain ⟨w, hack, hw⟩ : ∃ w, (window b).acknowledgePacket a = .ok w ∧ ofWindow w = b := by
        cases hx : (window b).acknowledgePacket a with
        | ok w => exact ⟨w, rfl, by simpa [hx] using hmap⟩
        | error e => simp [hx] at hmap
      have hsame : w = window b := by rw [← hw, window_ofWindow]
      exact hne (hsame ▸ hack)
    · intro hharm
      obtain ⟨w, hack, hcounted, hsame⟩ := h.acknowledgePacket hharm
      have hcall : RetransmissionBuffer.acknowledgePacket b a = .ok (ofWindow w) := by
        rw [acknowledgePacket_window, hack, Loops.map_ok]
      refine ⟨fun hnew => by rw [hcall, hsame hnew, ofWindow_window], ofWindow w, hcall, ?_⟩
      rw [window_ofWindow]
      have hcounted' := hcounted
      obtain ⟨q, hq, hc⟩ := hcounted
      refine ⟨hc.trans hq.stored_eq.symm, fun hfree => ?_⟩
      have hready : w.readyForNewPacket = true := decide_eq_true (hc ▸ hq.free_iff.mp hfree)
      refine ⟨by rw [readyForNewPacket_window, window_ofWindow, hready], fun o => ?_⟩
      obtain ⟨w', hadd, -⟩ := hcounted'.addPacket hready (full B) o
      exact ⟨ofWindow w', by rw [addPacket_window, window_ofWindow, hadd, Loops.map_ok]⟩
  | _ => exact Iff.rfl

theorem counted_transmitterCall (h : (window b).Counted) {c : RtCall} (hc : AckHarmless b c) {b' : B}
    (hb : transmitterCall b c = some b') : (window b').Counted := by
  cases c with
  | addPacket o =>
    rw [transmitterCall] at hb
    split at hb
    next hready =>
      rw [readyForNewPacket_window] at hready
      obtain ⟨w, hadd, hw⟩ := h.addPacket hready (full B) o
      rw [addPacket_window, hadd] at hb
      obtain rfl : ofWindow w = b' := Option.some.inj hb
      rwa [window_ofWindow]
    next => cases hb
  | tryGetPacketSpan now =>
    obtain ⟨r, w, htry, hw⟩ := h.tryGetPacketSpan now
    obtain rfl := Option.some.inj hb
    rwa [call_tryGetPacketSpan htry, window_ofWindow]
  | acknowledgePacket a =>
    obtain ⟨w, hack, hw, -⟩ := h.acknowledgePacket hc
    obtain rfl := Option.some.inj hb
    rwa [call_acknowledgePacket hack, window_ofWindow]
  | readyForNewPacket => exact Option.some.inj hb ▸ h
  | packetsPending => exact Option.some.inj hb ▸ h

theorem alongRun_ackKeepsWindow_iff (h : (window b).Counted)
    (calls : List RtCall) :
    Runs.AlongRun transmitterCall AckKeepsWindow b calls ↔
      Runs.AlongRun transmitterCall AckHarmless b calls :=
  Runs.alongRun_congr (R := fun _ _ => True) (I := fun b : B => (window b).Counted)
    (fun _ c hb _ => ackKeepsWindow_iff hb c) (fun _ _ _ hb _ hc hn => counted_transmitterCall hb hc hn)
    h (Runs.alongRun_true b calls)

end TransmitterCalls

theorem new_counted {windowSize : UInt16} (hw : 0 < windowSize.toNat) (timeout : ℤ)
    (first : SequenceNumber) : (CircularBuffer.new windowSize timeout first).Counted :=
  ⟨[], CircularBuffer.new_holds hw timeout first, rfl⟩

/-- ACKs keep the window exactly as long as none of them names a packet behind the last one stored and
inside the range that the guard admits. -/
theorem ack_keeps_window_iff_harmless (windowSize : UInt16) (hw : 0 < windowSize.toNat) (timeout : ℤ)
    (first : SequenceNumber) (calls : List RtCall) :
    (Runs.AlongRun transmitterCall AckKeepsWindow (GoBackN.new windowSize timeout first) calls ↔
      Runs.AlongRun transmitterCall AckHarmless (GoBackN.new windowSize timeout first) calls) ∧
    (Runs.AlongRun transmitterCall AckKeepsWindow (SelectiveRepeat.new windowSize timeout first) calls ↔
      Runs.AlongRun transmitterCall AckHarmless (SelectiveRepeat.new windowSize timeout first) calls) :=
  ⟨alongRun_ackKeepsWindow_iff (new_counted hw timeout first) calls,
    alongRun_ackKeepsWindow_iff (new_counted hw timeout first) calls⟩

theorem ack_keeps_window_iff_harmless_run :
    Runs.AlongRun transmitterCall AckKeepsWindow (GoBackN.new 4 5 0)
      [.addPacket (samplePacket 0), .addPacket (samplePacket 1), .acknowledgePacket 1,
        .acknowledgePacket 9] := by
  refine ((ack_keeps_window_iff_harmless 4 (by decide) 5 0 _).1).mpr ⟨trivial, fun b hb => ?_⟩
  obtain rfl := Option.some.inj hb
  refine ⟨trivial, fun b hb => ?_⟩
  obtain rfl := Option.some.inj hb
  refine ⟨.inr (.inl (by decide)), fun b hb => ?_⟩
  obtain rfl := Option.some.inj hb
  exact ⟨.inl (by decide), fun _ _ => trivial⟩

/-- One packet is stored in a window of four and SN 2 is acknowledged. -/
theorem ack_overruns_counter :
    ¬ Runs.AlongRun transmitterCall AckKeepsWindow (GoBackN.new 4 5 0)
      [.addPacket (samplePacket 0), .acknowledgePacket 2] := by
  rintro ⟨-, h⟩
  obtain ⟨⟨hsame, -⟩, -⟩ := h _ rfl
  exact absurd (hsame (by decide)) (by decide)

end ArqBenchmark.Rt
