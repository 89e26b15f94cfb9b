import ArqBenchmark.QueueRefinement
import ArqBenchmark.SystemSteps

namespace ArqBenchmark

open Rt OverCircularBuffer CircularBuffer

/-- What the transmitter needs of a circular buffer: the packets that wait for their ACK, from sequence number
`base` on. Calls out of order, which the transmitter does not make, are faults. -/
structure SentQueue where
  timeoutInterval : ℤ
  windowSize : ℕ
  base : ℕ
  queue : List TransmitBufferObject
deriving DecidableEq, Repr

namespace SentQueue

def addPacket (w : SentQueue) (o : TransmitBufferObject) : Except Fault SentQueue :=
  if w.queue.length < w.windowSize ∧ w.base + w.queue.length < 65536 ∧
      o.info.sequenceNumber = UInt16.ofNat (w.base + w.queue.length) then
    .ok { w with queue := w.queue ++ [o] }
  else .error .outOfBounds

def tryGetPacketSpan (w : SentQueue) (now : Clock) : Option (List Byte) × SentQueue :=
  let due := firstTimedOut w.timeoutInterval now w.queue
  (due.map fun r => r.1.packet.getReadSpan, { w with queue := (due.map Prod.snd).getD w.queue })

def acknowledgePacket (w : SentQueue) (a : SequenceNumber) : Except Fault SentQueue :=
  if w.queue.isEmpty then .ok w
  else if a.toNat < w.base + w.queue.length then
    .ok { w with base := w.base + (a.toNat + 1 - w.base), queue := w.queue.drop (a.toNat + 1 - w.base) }
  else .error .outOfBounds

instance : RetransmissionBuffer SentQueue where
  addPacket := addPacket
  tryGetPacketSpan w now := .ok (w.tryGetPacketSpan now)
  readyForNewPacket w := w.queue.length < w.windowSize
  packetsPending w := !w.queue.isEmpty
  acknowledgePacket := acknowledgePacket

variable {B : Type} [RetransmissionBuffer B] [OverCircularBuffer B] {b : B} {w w' : SentQueue}

structure Simulates (b : B) (w : SentQueue) : Prop where
  aligned : (window b).Aligned w.base w.queue
  size : (window b).windowSize.toNat = w.windowSize
  timeout : (window b).timeoutInterval = w.timeoutInterval

theorem Simulates.readyForNewPacket (h : Simulates b w) :
    RetransmissionBuffer.readyForNewPacket b = RetransmissionBuffer.readyForNewPacket w := by
  rw [readyForNewPacket_window, CircularBuffer.readyForNewPacket, h.aligned.count_eq, h.size]
  rfl

theorem Simulates.addPacket (h : Simulates b w) {o : TransmitBufferObject}
    (hadd : RetransmissionBuffer.addPacket w o = .ok w') :
    ∃ b' : B, RetransmissionBuffer.addPacket b o = .ok b' ∧ Simulates b' w' := by
  change SentQueue.addPacket w o = .ok w' at hadd
  rw [SentQueue.addPacket] at hadd
  split at hadd
  next hin =>
    cases hadd
    obtain ⟨b', hadd, hb', hsize, htime⟩ := h.aligned.addPacket (h.size ▸ hin.1) hin.2.2 hin.2.1 (full B)
    refine ⟨ofWindow b', by rw [addPacket_window, hadd, Loops.map_ok], ?_⟩
    refine ⟨?_, ?_, ?_⟩ <;> rw [window_ofWindow]
    · exact hb'
    · rw [hsize, h.size]
    · rw [htime, h.timeout]
  next => cases hadd

theorem Simulates.tryGetPacketSpan (h : Simulates b w) {now : Clock} {span : Option (List Byte)}
    (htry : RetransmissionBuffer.tryGetPacketSpan w now = .ok (span, w')) :
    ∃ b' : B, RetransmissionBuffer.tryGetPacketSpan b now = .ok (span, b') ∧ Simulates b' w' := by
  obtain ⟨rfl, rfl⟩ := Prod.mk.inj (Except.ok.inj htry)
  obtain ⟨b', htry, hb', hsize, htime⟩ := h.aligned.tryGetPacketSpan now
  refine ⟨ofWindow b', by rw [tryGetPacketSpan_window, htry, h.timeout]; rfl, ?_⟩
  refine ⟨?_, ?_, ?_⟩ <;> rw [window_ofWindow]
  · rw [h.timeout] at hb'
    exact hb'
  · rw [hsize, h.size]
  · rw [htime, h.timeout]

theorem Simulates.acknowledgePacket (h : Simulates b w) {a : SequenceNumber}
    (hack : RetransmissionBuffer.acknowledgePacket w a = .ok w') :
    ∃ b' : B, RetransmissionBuffer.acknowledgePacket b a = .ok b' ∧ Simulates b' w' := by
  change SentQueue.acknowledgePacket w a = .ok w' at hack
  rw [SentQueue.acknowledgePacket] at hack
  have hrange : w.queue ≠ [] → a.toNat < w.base + w.queue.length := by
    intro hne
    rw [if_neg (by rwa [List.isEmpty_iff])] at hack
    split at hack
    next hlt => exact hlt
    next => cases hack
  obtain ⟨b', k, hack', hb', hk, hkeq, hsize, htime⟩ := h.aligned.acknowledgePacket hrange
  refine ⟨ofWindow b', by rw [acknowledgePacket_window, hack', Loops.map_ok], ?_⟩
  by_cases hq : w.queue = []
  · rw [if_pos (List.isEmpty_iff.mpr hq)] at hack
    cases hack
    rw [hq, List.length_nil] at hk
    obtain rfl : k = 0 := by omega
    refine ⟨?_, ?_, ?_⟩ <;> rw [window_ofWindow]
    · exact hb'
    · rw [hsize, h.size]
    · rw [htime, h.timeout]
  · rw [if_neg (by rwa [List.isEmpty_iff]), if_pos (hrange hq)] at hack
    cases hack
    rw [hkeq hq] at hb'
    refine ⟨?_, ?_, ?_⟩ <;> rw [window_ofWindow]
    · exact hb'
    · rw [hsize, h.size]
    · rw [htime, h.timeout]

theorem new_simulates {N : UInt16} (hN : 0 < N) (timeout : ℤ) (first : SequenceNumber)
    (hb : window b = .new N timeout first) : Simulates b ⟨timeout, N.toNat, first.toNat, []⟩ := by
  refine ⟨?_, ?_, ?_⟩ <;> rw [hb]
  · exact new_aligned hN timeout first
  · rfl
  · rfl

end SentQueue

section Simulation

variable {B B' R : Type}

def Transmitter.withBuffer (t : Transmitter B') (b : B) : Transmitter B where
  inputBuffer := t.inputBuffer
  retransmissionBuffer := b
  ackQueue := t.ackQueue
  endOfTxSeqNum := t.endOfTxSeqNum
  endOfTxAcked := t.endOfTxAcked
  transmitThread := t.transmitThread
  ackThread := t.ackThread

def System.withBuffer (s : System B' R) (b : B) : System B R where
  toSubmit := s.toSubmit
  transmitter := s.transmitter.withBuffer b
  receiver := s.receiver
  dataChannel := s.dataChannel
  ackChannel := s.ackChannel
  history := s.history

theorem Transmitter.receiveAck_withBuffer {t t' : Transmitter SentQueue} {received : Option (ℕ × ReceiveBuffer)}
    (ht : t.receiveAck received = some t') (b : B) :
    (t.withBuffer b).receiveAck received = some (t'.withBuffer b) := by
  unfold Transmitter.receiveAck at ht ⊢
  split at ht
  next hpoint =>
    have hpoint' : (t.withBuffer b).ackThread = .receiving := hpoint
    rw [hpoint']
    split at ht
    · cases ht
      rfl
    next bytes recvBuffer =>
      by_cases hpos : 0 < bytes
      · rw [if_pos hpos] at ht ⊢
        split at ht
        · cases ht
          rfl
        · cases ht
          rfl
      · rw [if_neg hpos] at ht ⊢
        cases ht
        rfl
  next => cases ht

theorem Transmitter.ackThreadStep_withBuffer {t t' : Transmitter SentQueue}
    (ht : t.ackThreadStep = some t') (b : B) :
    (t.withBuffer b).ackThreadStep = some (t'.withBuffer b) ∧
      t'.retransmissionBuffer = t.retransmissionBuffer := by
  cases Transmitter.ackThreadStep_takesAcks ht with
  | loop hpoint => simp [Transmitter.withBuffer, Transmitter.ackThreadStep, hpoint]
  | pushed hpoint => simp [Transmitter.withBuffer, Transmitter.ackThreadStep, hpoint, SafeQueue.push]

variable [ResequencingBuffer R] {s s' : System SentQueue R}

theorem System.sendPacket_withBuffer {now : Clock} (hs : s.sendPacket now = some s') (b : B) :
    (s.withBuffer b).sendPacket now = some (s'.withBuffer b) ∧
      s'.transmitter.retransmissionBuffer = s.transmitter.retransmissionBuffer := by
  cases sendPacket_steps hs with
  | submits hsubmit hadd =>
    refine ⟨?_, rfl⟩
    simp [System.sendPacket, System.withBuffer, Transmitter.withBuffer, Transmitter.sendPacket, hsubmit, hadd]

theorem System.txReceive_withBuffer {i : ℕ} {recvBuffer : ReceiveBuffer}
    (hs : s.txReceive i recvBuffer = some s') (b : B) :
    (s.withBuffer b).txReceive i recvBuffer = some (s'.withBuffer b) ∧
      s'.transmitter.retransmissionBuffer = s.transmitter.retransmissionBuffer := by
  cases txReceive_steps hs with
  | txReceives hd ht =>
    have ht' := Transmitter.receiveAck_withBuffer ht b
    obtain ⟨-, point, rfl, -⟩ := Transmitter.receiveAck_point ht
    refine ⟨?_, rfl⟩
    simp only [System.txReceive, System.withBuffer, hd, ht', Option.map_some]

theorem System.rxReceive_withBuffer {i : ℕ} {recvBuffer : ReceiveBuffer}
    (hs : s.rxReceive i recvBuffer = some s') (b : B) :
    (s.withBuffer b).rxReceive i recvBuffer = some (s'.withBuffer b) ∧ s'.transmitter = s.transmitter := by
  cases rxReceive_steps hs with
  | rxReceives hd hr =>
    refine ⟨?_, rfl⟩
    simp only [System.rxReceive, System.withBuffer, hd, hr, Option.map_some]

variable [RetransmissionBuffer B]

theorem Transmitter.Transmits.step {t t' : Transmitter B} {now : Clock} {d : Option (List Byte)}
    {p : Option DataPacket} (h : t.Transmits now t' d p) : t.transmitStep now = some (t', d, p) := by
  cases h with
  | retransmitted hpoint htry => simp [transmitStep, hpoint, attemptPacketRetransmission, htry]
  | noneTimedOut hpoint htry => simp [transmitStep, hpoint, attemptPacketRetransmission, htry]
  | retransmissionFault hpoint htry => simp [transmitStep, hpoint, attemptPacketRetransmission, htry]
  | notReady hpoint hready => simp [transmitStep, hpoint, attemptNewPacketTransmission, hready]
  | noPacket hpoint hqueue =>
    have hbuffer :
        { inputPackets := [], lastSequenceNumber := t.inputBuffer.lastSequenceNumber } = t.inputBuffer := by
      rw [← hqueue]
    cases hready : RetransmissionBuffer.readyForNewPacket t.retransmissionBuffer <;>
      simp [transmitStep, hpoint, attemptNewPacketTransmission, hready, InputBuffer.tryGetPacket,
        SafeQueue.tryPop, hqueue, hbuffer]
  | sent hpoint hready hqueue hadd =>
    simp [transmitStep, hpoint, attemptNewPacketTransmission, hready, InputBuffer.tryGetPacket,
      SafeQueue.tryPop, hqueue, hadd]
  | sendFault hpoint hready hqueue hadd =>
    simp [transmitStep, hpoint, attemptNewPacketTransmission, hready, InputBuffer.tryGetPacket,
      SafeQueue.tryPop, hqueue, hadd]
  | exited hpoint hacked => simp [transmitStep, hpoint, processAckQueue, hacked]
  | emptied hpoint hacked hqueue =>
    simp [transmitStep, hpoint, processAckQueue, hacked, hqueue, SafeQueue.tryPop]
  | endAcked hpoint hacked hqueue hend =>
    simp [transmitStep, hpoint, processAckQueue, hacked, hqueue, SafeQueue.tryPop, ← hend]
  | acked hpoint hacked hqueue hne hack =>
    simp [transmitStep, hpoint, processAckQueue, hacked, hqueue, SafeQueue.tryPop, hne, hack]
  | ackFault hpoint hacked hqueue hne hack =>
    simp [transmitStep, hpoint, processAckQueue, hacked, hqueue, SafeQueue.tryPop, hne, hack]

open SentQueue (Simulates)

variable [OverCircularBuffer B]

theorem Transmitter.Transmits.withBuffer {t t' : Transmitter SentQueue} {b : B}
    (h : Simulates b t.retransmissionBuffer) {now : Clock} {d : Option (List Byte)} {p : Option DataPacket}
    (ht : t.Transmits now t' d p) (hrun : ∀ fault, t'.transmitThread ≠ .terminated fault) :
    ∃ b' : B, Simulates b' t'.retransmissionBuffer ∧ (t.withBuffer b).Transmits now (t'.withBuffer b') d p := by
  cases ht with
  | retransmitted hpoint htry =>
    obtain ⟨b', htry', hb'⟩ := h.tryGetPacketSpan htry
    exact ⟨b', hb', .retransmitted hpoint htry'⟩
  | noneTimedOut hpoint htry =>
    obtain ⟨b', htry', hb'⟩ := h.tryGetPacketSpan htry
    exact ⟨b', hb', .noneTimedOut hpoint htry'⟩
  | notReady hpoint hready => exact ⟨b, h, .notReady hpoint (h.readyForNewPacket.trans hready)⟩
  | noPacket hpoint hqueue => exact ⟨b, h, .noPacket hpoint hqueue⟩
  | sent hpoint hready hqueue hadd =>
    obtain ⟨b', hadd', hb'⟩ := h.addPacket hadd
    exact ⟨b', hb', .sent hpoint (h.readyForNewPacket.trans hready) hqueue hadd'⟩
  | exited hpoint hacked => exact ⟨b, h, .exited hpoint hacked⟩
  | emptied hpoint hacked hqueue => exact ⟨b, h, .emptied hpoint hacked hqueue⟩
  | endAcked hpoint hacked hqueue hend => exact ⟨b, h, .endAcked hpoint hacked hqueue hend⟩
  | acked hpoint hacked hqueue hne hack =>
    obtain ⟨b', hack', hb'⟩ := h.acknowledgePacket hack
    exact ⟨b', hb', .acked hpoint hacked hqueue hne hack'⟩
  | retransmissionFault => exact absurd rfl (hrun _)
  | sendFault => exact absurd rfl (hrun _)
  | ackFault => exact absurd rfl (hrun _)

variable {b : B} {act : Action}

theorem System.step_withBuffer (h : Simulates b s.transmitter.retransmissionBuffer) (hs : s.step act = some s')
    (hrun : ∀ fault, s'.transmitter.transmitThread ≠ .terminated fault) :
    ∃ b' : B, Simulates b' s'.transmitter.retransmissionBuffer ∧
      (s.withBuffer b).step act = some (s'.withBuffer b') := by
  cases act with
  | sendPacket now =>
    obtain ⟨hsend, hsame⟩ := sendPacket_withBuffer hs b
    exact ⟨b, hsame ▸ h, hsend⟩
  | transmitThread now =>
    obtain ⟨⟨t, d, p⟩, ht, rfl⟩ := Option.map_eq_some_iff.mp hs
    obtain ⟨b', hb', ht'⟩ := (Transmitter.transmitStep_transmits ht).withBuffer h hrun
    refine ⟨b', hb', ?_⟩
    have hstep := ht'.step
    exact Option.map_eq_some_iff.mpr ⟨_, hstep, rfl⟩
  | txAckThread =>
    obtain ⟨t, ht, rfl⟩ := Option.map_eq_some_iff.mp hs
    obtain ⟨ht', hsame⟩ := Transmitter.ackThreadStep_withBuffer ht b
    exact ⟨b, hsame ▸ h, Option.map_eq_some_iff.mpr ⟨_, ht', rfl⟩⟩
  | txReceive i recvBuffer =>
    obtain ⟨hreceive, hsame⟩ := txReceive_withBuffer hs b
    exact ⟨b, hsame ▸ h, hreceive⟩
  | txReceiveTimeout =>
    obtain ⟨t, ht, rfl⟩ := Option.map_eq_some_iff.mp hs
    have ht' := Transmitter.receiveAck_withBuffer ht b
    obtain rfl := Transmitter.receiveAck_none ht
    exact ⟨b, h, Option.map_eq_some_iff.mpr ⟨_, ht', rfl⟩⟩
  | rxReceive i recvBuffer =>
    obtain ⟨hreceive, hsame⟩ := rxReceive_withBuffer hs b
    exact ⟨b, hsame ▸ h, hreceive⟩
  | resequencingThread now =>
    obtain ⟨x, hx, rfl⟩ := Option.map_eq_some_iff.mp hs
    exact ⟨b, h, Option.map_eq_some_iff.mpr ⟨x, hx, rfl⟩⟩
  | rxReceiveTimeout =>
    obtain ⟨x, hx, rfl⟩ := Option.map_eq_some_iff.mp hs
    exact ⟨b, h, Option.map_eq_some_iff.mpr ⟨x, hx, rfl⟩⟩
  | rxAckThread =>
    obtain ⟨x, hx, rfl⟩ := Option.map_eq_some_iff.mp hs
    exact ⟨b, h, Option.map_eq_some_iff.mpr ⟨x, hx, rfl⟩⟩
  -- The application's `tryGetPacket` and the network leave the transmitter alone.
  | tryGetPacket =>
    cases hs
    exact ⟨b, h, rfl⟩
  | dropData i =>
    cases hs
    exact ⟨b, h, rfl⟩
  | duplicateData i =>
    cases hs
    exact ⟨b, h, rfl⟩
  | dropAck i =>
    cases hs
    exact ⟨b, h, rfl⟩
  | duplicateAck i =>
    cases hs
    exact ⟨b, h, rfl⟩

def System.stepRunning (s : System SentQueue R) (act : Action) : Option (System SentQueue R) :=
  (s.step act).filter fun s' => match s'.transmitter.transmitThread with
    | .terminated _ => false
    | _ => true

theorem System.replay_withBuffer {P : System SentQueue R → Action → Prop} {allowed : System B R → Action → Prop}
    (hP : ∀ s (b : B) act, P s act → allowed (s.withBuffer b) act) {calls : List Action}
    (h : Simulates b s.transmitter.retransmissionBuffer) (hall : Runs.AlongRun System.stepRunning P s calls)
    (hr : Runs.replay System.stepRunning s calls = some s') :
    ∃ b' : B, Simulates b' s'.transmitter.retransmissionBuffer ∧
      Runs.Reaches (fun s act s' => System.step s act = some s') allowed (s.withBuffer b) (s'.withBuffer b') := by
  induction calls generalizing s b with
  | nil =>
    obtain rfl := Option.some.inj hr
    exact ⟨b, h, .refl⟩
  | cons act calls ih =>
    obtain ⟨u, hu, hrest⟩ := Option.bind_eq_some_iff.mp hr
    obtain ⟨hact, hmore⟩ := hall
    obtain ⟨hs, hrun⟩ := Option.filter_eq_some_iff.mp hu
    have hrun' : ∀ fault, u.transmitter.transmitThread ≠ .terminated fault := by
      intro fault hfault
      rw [hfault] at hrun
      cases hrun
    obtain ⟨c, hc, hstep⟩ := System.step_withBuffer h hs hrun'
    obtain ⟨b', hb', hreach⟩ := ih hc (hmore u hu) hrest
    have hfirst : Runs.Reaches (fun s act s' => System.step s act = some s') allowed (s.withBuffer b)
        (u.withBuffer c) := .tail .refl (hP s b act hact) hstep
    exact ⟨b', hb', hfirst.trans hreach⟩

end Simulation

end ArqBenchmark
