import ArqBenchmark.Runs
import ArqBenchmark.WindowAlignment

namespace ArqBenchmark.Rt

open BoundedFifo

class OverCircularBuffer (B : Type) [RetransmissionBuffer B] where
  full : String
  ofWindow : CircularBuffer → B
  window : B → CircularBuffer
  window_ofWindow : ∀ w, window (ofWindow w) = w
  ofWindow_window : ∀ b, ofWindow (window b) = b
  addPacket_window : ∀ b o, RetransmissionBuffer.addPacket b o = ofWindow <$> (window b).addPacket full o
  tryGetPacketSpan_window : ∀ b now, RetransmissionBuffer.tryGetPacketSpan b now =
    Prod.map id ofWindow <$> (window b).tryGetPacketSpan now
  readyForNewPacket_window : ∀ b : B, RetransmissionBuffer.readyForNewPacket b = (window b).readyForNewPacket
  packetsPending_window : ∀ b : B, RetransmissionBuffer.packetsPending b = (window b).packetsPending
  acknowledgePacket_window : ∀ b a, RetransmissionBuffer.acknowledgePacket b a =
    ofWindow <$> (window b).acknowledgePacket a

instance : OverCircularBuffer GoBackN where
  full := "tried to add packet to Go-Back-N RT buffer, but buffer was full"
  ofWindow := .mk
  window := GoBackN.window
  window_ofWindow _ := rfl
  ofWindow_window _ := rfl
  addPacket_window _ _ := rfl
  tryGetPacketSpan_window _ _ := rfl
  readyForNewPacket_window _ := rfl
  packetsPending_window _ := rfl
  acknowledgePacket_window _ _ := rfl

instance : OverCircularBuffer SelectiveRepeat where
  full := "tried to add packet to Selective Repeat RT buffer, but buffer was full"
  ofWindow := .mk
  window := SelectiveRepeat.window
  window_ofWindow _ := rfl
  ofWindow_window _ := rfl
  addPacket_window _ _ := rfl
  tryGetPacketSpan_window _ _ := rfl
  readyForNewPacket_window _ := rfl
  packetsPending_window _ := rfl
  acknowledgePacket_window _ _ := rfl

inductive RtCall
  | addPacket (packet : TransmitBufferObject)
  | tryGetPacketSpan (now : Clock)
  | readyForNewPacket
  | packetsPending
  | acknowledgePacket (ackedSeqNum : SequenceNumber)

inductive RtResult
  | done
  | thrown (fault : Fault)
  | span (bytes : Option (List Byte))
  | flag (value : Bool)
deriving DecidableEq, Repr

def call {B : Type} [RetransmissionBuffer B] (b : B) : RtCall → RtResult × B
  | .addPacket packet =>
    match RetransmissionBuffer.addPacket b packet with
    | .ok b' => (.done, b')
    -- The buffers throw before they have changed any member.
    | .error fault => (.thrown fault, b)
  | .tryGetPacketSpan now =>
    match RetransmissionBuffer.tryGetPacketSpan b now with
    | .ok (bytes, b') => (.span bytes, b')
    | .error fault => (.thrown fault, b)
  | .readyForNewPacket => (.flag (RetransmissionBuffer.readyForNewPacket b), b)
  | .packetsPending => (.flag (RetransmissionBuffer.packetsPending b), b)
  | .acknowledgePacket ackedSeqNum =>
    match RetransmissionBuffer.acknowledgePacket b ackedSeqNum with
    | .ok b' => (.done, b')
    | .error fault => (.thrown fault, b)

structure Entry where
  sequenceNumber : SequenceNumber
  bytes : List Byte
  lastTxTime : Time
deriving DecidableEq, Repr

def Entry.of (o : TransmitBufferObject) : Entry :=
  ⟨o.info.sequenceNumber, o.packet.getReadSpan, o.info.lastTxTime⟩

/-- What the circular buffers are for: a bounded queue of the packets that wait for their ACK. `added`
counts the packets that have entered it. -/
structure PacketQueue where
  timeoutInterval : ℤ
  fifo : Fifo Entry
  added : ℕ

namespace PacketQueue

def empty (capacity : ℕ) (timeoutInterval : ℤ) : PacketQueue := ⟨timeoutInterval, .empty capacity, 0⟩

def isTimedOut (timeoutInterval : ℤ) (now : Time) (e : Entry) : Bool :=
  timeoutInterval < (now - e.lastTxTime).tdiv 1000

def call (full : String) (s : PacketQueue) : RtCall → RtResult × PacketQueue
  | .addPacket packet =>
    match s.fifo.push (.of packet) with
    | some fifo => (.done, { s with fifo := fifo, added := s.added + 1 })
    | none => (.thrown (.arqProtocolException full), s)
  | .tryGetPacketSpan now =>
    match touchFirst (fun k => isTimedOut s.timeoutInterval (now k))
        (fun k e => { e with lastTxTime := now (k + 1) }) s.fifo.items with
    | some (e, items) => (.span (some e.bytes), { s with fifo.items := items })
    | none => (.span none, s)
  | .readyForNewPacket => (.flag s.fifo.hasRoom, s)
  | .packetsPending => (.flag s.fifo.nonempty, s)
  | .acknowledgePacket ackedSeqNum =>
    (.done, { s with fifo := s.fifo.popWhile (fun e => e.sequenceNumber ≤ ackedSeqNum) })

/-- Sequence numbers are added in order from `first`, without passing 65535, and only packets that
were added are acknowledged. -/
def Admissible (first : SequenceNumber) (s : PacketQueue) : RtCall → Prop
  | .addPacket packet => s.fifo.hasRoom = true → packet.info.sequenceNumber.toNat = first.toNat + s.added
  | .acknowledgePacket ackedSeqNum => ackedSeqNum.toNat < first.toNat + s.added
  | _ => True

instance (first : SequenceNumber) (s : PacketQueue) : ∀ c, Decidable (s.Admissible first c)
  | .addPacket packet => inferInstanceAs (Decidable
      (s.fifo.hasRoom = true → packet.info.sequenceNumber.toNat = first.toNat + s.added))
  | .acknowledgePacket ackedSeqNum => inferInstanceAs (Decidable (ackedSeqNum.toNat < first.toNat + s.added))
  | .tryGetPacketSpan _ | .readyForNewPacket | .packetsPending => isTrue trivial

end PacketQueue

def Refines (first : SequenceNumber) (b : CircularBuffer) (s : PacketQueue) : Prop :=
  ∃ base q, b.Aligned base q ∧ s.fifo = ⟨b.windowSize.toNat, q.map .of⟩ ∧
    s.timeoutInterval = b.timeoutInterval ∧ first.toNat + s.added = base + q.length

theorem new_refines {windowSize : UInt16} (hw : 0 < windowSize.toNat) (timeout : ℤ)
    (first : SequenceNumber) :
    Refines first (.new windowSize timeout first) (.empty windowSize.toNat timeout) :=
  ⟨_, [], CircularBuffer.new_aligned hw timeout first, rfl, rfl, rfl⟩

section Calls

variable {B : Type} [RetransmissionBuffer B] [OverCircularBuffer B] {first : SequenceNumber}
  {b : B} {s : PacketQueue} {w : CircularBuffer}

open OverCircularBuffer

theorem call_addPacket {o : TransmitBufferObject} (h : (window b).addPacket (full B) o = .ok w) :
    call b (.addPacket o) = (.done, ofWindow w) := by
  simp only [call, addPacket_window, h, Loops.map_ok]

theorem call_addPacket_error {o : TransmitBufferObject} {e : Fault}
    (h : (window b).addPacket (full B) o = .error e) : call b (.addPacket o) = (.thrown e, b) := by
  simp only [call, addPacket_window, h, Loops.map_error]

theorem call_tryGetPacketSpan {now : Clock} {bytes : Option (List Byte)}
    (h : (window b).tryGetPacketSpan now = .ok (bytes, w)) :
    call b (.tryGetPacketSpan now) = (.span bytes, ofWindow w) := by
  simp only [call, tryGetPacketSpan_window, h, Loops.map_ok, Prod.map_apply, id_eq]

theorem call_acknowledgePacket {a : SequenceNumber} (h : (window b).acknowledgePacket a = .ok w) :
    call b (.acknowledgePacket a) = (.done, ofWindow w) := by
  simp only [call, acknowledgePacket_window, h, Loops.map_ok]

variable (h : Refines first (window b) s)

include h

theorem Refines.addPacket (o : TransmitBufferObject) (ha : s.Admissible first (.addPacket o)) :
    (call b (.addPacket o)).1 = (s.call (full B) (.addPacket o)).1 ∧
      Refines first (window (call b (.addPacket o)).2) (s.call (full B) (.addPacket o)).2 := by
  obtain ⟨base, q, hq, hfifo, ht, hadded⟩ := h
  -- Both throw when there is no room, with the same text.
  by_cases hroom : q.length < (window b).windowSize.toNat
  · have hsn : o.info.sequenceNumber.toNat = base + q.length := by
      rw [ha (by simpa [Fifo.hasRoom, hfifo] using hroom), hadded]
    obtain ⟨w, hadd, hw, hsize, htime⟩ := hq.addPacket hroom (o := o)
      (by rw [← hsn, UInt16.ofNat_toNat]) (by rw [← hsn]; exact o.info.sequenceNumber.toNat_lt) (full B)
    have hpush : s.fifo.push (.of o) = some ⟨(window b).windowSize.toNat, (q ++ [o]).map .of⟩ := by
      simp only [Fifo.push, hfifo, List.length_map, hroom, ↓reduceIte, List.map_append, List.map_cons,
        List.map_nil]
    rw [call_addPacket hadd]
    simp only [PacketQueue.call, hpush]
    refine ⟨trivial, base, q ++ [o], ?_⟩
    rw [window_ofWindow, List.length_append, List.length_singleton, hsize, htime]
    exact ⟨hw, rfl, ht, show first.toNat + (s.added + 1) = _ by omega⟩
  · have hmax := hq.holds.length_le
    have hfull := hq.addPacket_full (o := o) (by omega) (full B)
    have hpush : s.fifo.push (.of o) = none := by
      simp only [Fifo.push, hfifo, List.length_map, hroom, ↓reduceIte]
    rw [call_addPacket_error hfull]
    simp only [PacketQueue.call, hpush]
    exact ⟨trivial, base, q, hq, hfifo, ht, hadded⟩

theorem Refines.tryGetPacketSpan (now : Clock) :
    (call b (.tryGetPacketSpan now)).1 = (s.call (full B) (.tryGetPacketSpan now)).1 ∧
      Refines first (window (call b (.tryGetPacketSpan now)).2)
        (s.call (full B) (.tryGetPacketSpan now)).2 := by
  obtain ⟨base, q, hq, hfifo, ht, hadded⟩ := h
  obtain ⟨w, htry, hw, hsize, htime⟩ := hq.tryGetPacketSpan now
  have htouch : touchFirst (fun k => PacketQueue.isTimedOut s.timeoutInterval (now k))
      (fun k e => { e with lastTxTime := now (k + 1) }) s.fifo.items =
        (CircularBuffer.firstTimedOut (window b).timeoutInterval now q).map
          (fun r => (Entry.of r.1, r.2.map Entry.of)) := by
    rw [hfifo, ht]
    exact touchFirst_map (f := Entry.of) (g := fun k o => o.updateLastTxTime (now (k + 1)))
      (fun _ _ => rfl) q
  rw [call_tryGetPacketSpan htry]
  cases hf : CircularBuffer.firstTimedOut (window b).timeoutInterval now q with
  | none =>
    rw [hf] at hw htouch
    simp only [PacketQueue.call, htouch, Option.map_none]
    refine ⟨trivial, base, q, ?_⟩
    rw [window_ofWindow, hsize, htime]
    exact ⟨hw, hfifo, ht, hadded⟩
  | some r =>
    obtain ⟨k, t, -, hset⟩ := CircularBuffer.firstTimedOut_eq_set hf
    have hlen : r.2.length = q.length := by rw [hset, List.length_set]
    rw [hf] at hw htouch
    simp only [PacketQueue.call, htouch, Option.map_some]
    refine ⟨rfl, base, r.2, ?_⟩
    rw [window_ofWindow, hsize, htime, hlen]
    exact ⟨hw, by rw [hfifo], ht, hadded⟩

theorem Refines.acknowledgePacket (a : SequenceNumber) (ha : s.Admissible first (.acknowledgePacket a)) :
    (call b (.acknowledgePacket a)).1 = (s.call (full B) (.acknowledgePacket a)).1 ∧
      Refines first (window (call b (.acknowledgePacket a)).2)
        (s.call (full B) (.acknowledgePacket a)).2 := by
  obtain ⟨base, q, hq, hfifo, ht, hadded⟩ := h
  have ha' : a.toNat < base + q.length := hadded ▸ ha
  obtain ⟨w, k, hack, hw, hk, hkeq, hsize, htime⟩ := hq.acknowledgePacket (fun _ => ha')
  have hbound := hq.bound
  -- The packets up to `a` are the first `k`, since their numbers are consecutive.
  have hpop : (q.map Entry.of).dropWhile (fun e => e.sequenceNumber ≤ a) = (q.drop k).map Entry.of := by
    rw [List.map_drop]
    apply dropWhile_eq_drop
    intro j e he
    rw [List.getElem?_map] at he
    obtain ⟨o, ho, rfl⟩ := Option.map_eq_some_iff.mp he
    have hj : j < q.length := (List.getElem?_eq_some_iff.mp ho).1
    have hne : q ≠ [] := List.length_pos_iff.mp (by omega)
    rw [decide_eq_true_eq, Entry.of, hq.sequence j o ho, UInt16.le_iff_toNat_le,
      toNat_ofNat_of_lt (by omega), hkeq hne]
    omega
  rw [call_acknowledgePacket hack]
  refine ⟨rfl, base + k, q.drop k, ?_⟩
  rw [window_ofWindow, hsize, htime, List.length_drop]
  refine ⟨hw, ?_, ht, show first.toNat + s.added = _ by omega⟩
  rw [PacketQueue.call, Fifo.popWhile, hfifo, hpop]

theorem Refines.call (c : RtCall) (ha : s.Admissible first c) :
    (call b c).1 = (s.call (full B) c).1 ∧
      Refines first (window (Rt.call b c).2) (s.call (full B) c).2 := by
  cases c with
  | addPacket o => exact h.addPacket o ha
  | tryGetPacketSpan now => exact h.tryGetPacketSpan now
  | acknowledgePacket a => exact h.acknowledgePacket a ha
  | readyForNewPacket =>
    refine ⟨?_, h⟩
    obtain ⟨base, q, hq, hfifo, -⟩ := h
    simp only [Rt.call, PacketQueue.call, readyForNewPacket_window, Fifo.hasRoom, hfifo, List.length_map]
    rw [CircularBuffer.readyForNewPacket, hq.count_eq]
  | packetsPending =>
    refine ⟨?_, h⟩
    obtain ⟨base, q, hq, hfifo, -⟩ := h
    simp only [Rt.call, PacketQueue.call, packetsPending_window, Fifo.nonempty, hfifo, List.length_map]
    rw [CircularBuffer.packetsPending, hq.count_eq]

omit h

theorem observe_eq_queue {windowSize : UInt16} (hw : 0 < windowSize.toNat) {timeout : ℤ}
    (hb : window b = .new windowSize timeout first) {calls : List RtCall}
    (hc : Runs.AlongRun (fun s c => some (s.call (full B) c).2) (PacketQueue.Admissible first)
      (.empty windowSize.toNat timeout) calls) :
    Runs.observe Rt.call b calls =
      Runs.observe (PacketQueue.call (full B)) (.empty windowSize.toNat timeout) calls :=
  Runs.observe_eq_of_simulation (S := fun b s => Refines first (window b) s)
    (fun _ _ c h ha => h.call c ha) (hb ▸ new_refines hw timeout first) hc

end Calls

theorem circular_buffers_refine_queue (windowSize : UInt16) (hw : 0 < windowSize.toNat) (timeout : ℤ)
    (first : SequenceNumber) :
    (∀ calls, Runs.AlongRun (fun s c => some (s.call (OverCircularBuffer.full GoBackN) c).2)
        (PacketQueue.Admissible first) (.empty windowSize.toNat timeout) calls →
      Runs.observe call (GoBackN.new windowSize timeout first) calls =
        Runs.observe (PacketQueue.call (OverCircularBuffer.full GoBackN))
          (.empty windowSize.toNat timeout) calls) ∧
    (∀ calls, Runs.AlongRun (fun s c => some (s.call (OverCircularBuffer.full SelectiveRepeat) c).2)
        (PacketQueue.Admissible first) (.empty windowSize.toNat timeout) calls →
      Runs.observe call (SelectiveRepeat.new windowSize timeout first) calls =
        Runs.observe (PacketQueue.call (OverCircularBuffer.full SelectiveRepeat))
          (.empty windowSize.toNat timeout) calls) :=
  ⟨fun _ hc => observe_eq_queue hw rfl hc, fun _ hc => observe_eq_queue hw rfl hc⟩

def samplePacket (seqNum : SequenceNumber) : TransmitBufferObject :=
  ⟨⟨⟨1, seqNum, 0⟩, [1, 0, seqNum.toUInt8, 0, 0]⟩, ⟨0, 0, seqNum⟩⟩

def sampleCalls : List RtCall :=
  [.addPacket (samplePacket 7), .addPacket (samplePacket 8), .addPacket (samplePacket 9), .readyForNewPacket,
    .addPacket (samplePacket 10), .tryGetPacketSpan (fun _ => 6000), .tryGetPacketSpan (fun _ => 6001),
    .acknowledgePacket 6, .acknowledgePacket 8, .readyForNewPacket, .addPacket (samplePacket 10),
    .addPacket (samplePacket 11), .readyForNewPacket, .tryGetPacketSpan (fun _ => 6002),
    .tryGetPacketSpan (fun _ => 6003), .acknowledgePacket 10, .tryGetPacketSpan (fun _ => 6004),
    .tryGetPacketSpan (fun _ => 6005), .packetsPending, .acknowledgePacket 11, .packetsPending]

/-- A window of three packets that refuses a fourth, is acknowledged in part and goes on past its last slot. -/
theorem circular_buffers_refine_queue_run :
    Runs.observe call (GoBackN.new 3 5 7) sampleCalls =
      [.done, .done, .done, .flag false,
        .thrown (.arqProtocolException "tried to add packet to Go-Back-N RT buffer, but buffer was full"),
        .span (some [1, 0, 7, 0, 0]), .span (some [1, 0, 8, 0, 0]), .done, .done, .flag true, .done, .done,
        .flag false, .span (some [1, 0, 9, 0, 0]), .span (some [1, 0, 10, 0, 0]), .done,
        .span (some [1, 0, 11, 0, 0]), .span none, .flag true, .done, .flag false] := by
  refine ((circular_buffers_refine_queue 3 (by decide) 5 7).1 sampleCalls ?_).trans (by decide +kernel)
  decide +kernel

end ArqBenchmark.Rt
