import ArqBenchmark.SentQueue
import ArqBenchmark.TerminationAgreement
import ArqBenchmark.WindowAgreement

namespace ArqBenchmark

open ResequencingView DataPacket

variable {packets : List DataPacket} {N M : UInt16} {timeout : ℤ}
  {s s' : System Rt.SelectiveRepeat Rs.SelectiveRepeat} {act : Action}

/-- When the transmit thread takes 65535 from the ACK queue, nothing is stored or the range guard of
`acknowledgePacket` rejects it. -/
def System.EarlyAckRejected (s : System Rt.SelectiveRepeat Rs.SelectiveRepeat) : Action → Prop
  | .transmitThread _ => s.transmitter.transmitThread = .processAckQueue → s.transmitter.endOfTxAcked = false →
      s.transmitter.ackQueue.head? = some 65535 →
      s.transmitter.retransmissionBuffer.window.packetsInBuffer = 0 ∨
        s.transmitter.retransmissionBuffer.window.nextToAck.toNat +
          s.transmitter.retransmissionBuffer.window.windowSize.toNat ≤ 65535
  | _ => True

theorem System.EarlyAckRejected.ignored (h : s.EarlyAckRejected act) : EarlyAckIgnored s act := by
  rintro now queue rfl hpoint hacked hqueue -
  have hsame : s.transmitter.retransmissionBuffer.window.acknowledgePacket 65535 =
      .ok s.transmitter.retransmissionBuffer.window := by
    rcases h hpoint hacked (by rw [hqueue]; rfl) with hzero | hguard
    · refine Rt.CircularBuffer.acknowledgePacket_idle ?_ _
      rw [Rt.CircularBuffer.packetsPending, hzero]
      rfl
    · exact Rt.CircularBuffer.acknowledgePacket_beyond hguard
  rw [Rt.OverCircularBuffer.acknowledgePacket_window]
  exact congrArg (Rt.SelectiveRepeat.mk <$> ·) hsame

theorem Receiver.Resequences.windowSize {r r' : Receiver Rs.SelectiveRepeat} {now : Clock}
    {accepted delivered : Option DataPacket} (hr : r.Resequences now r' accepted delivered)
    (hworks : Works r.resequencingBuffer) :
    r'.resequencingBuffer.windowSize = r.resequencingBuffer.windowSize := by
  cases hr with
  | @added p ack b _ hadd =>
    obtain ⟨w, hw⟩ := hworks
    obtain ⟨run, b', w', hadd', h⟩ := hw.addPacket p
    obtain ⟨-, rfl⟩ := Prod.mk.inj (Except.ok.inj (hadd'.symm.trans hadd))
    exact h.size
  | delivered _ hnext =>
    obtain ⟨-, rfl⟩ := Prod.mk.inj hnext
    rfl
  | drained _ hnext =>
    obtain ⟨-, rfl⟩ := Prod.mk.inj hnext
    rfl
  | _ => rfl

theorem Carried.windowSize_step (hc : Carried packets s) (hs : s.step act = some s') :
    s'.receiver.resequencingBuffer.windowSize = s.receiver.resequencingBuffer.windowSize := by
  rcases System.resequences_or_same hs with ⟨now, r, accepted, delivered, hr, rfl⟩ | hsame
  · exact hr.windowSize hc.rx.works
  · rw [hsame.resequencingBuffer]

structure System.SelectiveRepeatAgrees (s : System Rt.SelectiveRepeat Rs.SelectiveRepeat) (N M : UInt16) :
    Prop where
  held : ∀ (i : ℕ) (p : DataPacket), s.history.firstSent[i]? = some p →
    s.receiver.resequencingBuffer.earliestExpected.toNat ≤ i →
    p ∈ s.transmitter.retransmissionBuffer.window.packets.map TransmitBufferObject.packet
  next_le : s.transmitter.retransmissionBuffer.window.nextToAck.toNat ≤
    s.receiver.resequencingBuffer.earliestExpected.toNat
  counted : s.transmitter.retransmissionBuffer.window.packetsInBuffer =
    s.transmitter.retransmissionBuffer.window.stored
  within : N ≤ M → ∀ p, s.receiver.resequencingThread = .adding p →
    p.header.sequenceNumber.toNat <
      s.receiver.resequencingBuffer.earliestExpected.toNat + s.receiver.resequencingBuffer.windowSize.toNat

abbrev System.RejectingRun (packets : List DataPacket) (N M : UInt16) (timeout : ℤ)
    (s : System Rt.SelectiveRepeat Rs.SelectiveRepeat) : Prop :=
  Runs.Reaches (fun s act s' => System.step s act = some s') System.EarlyAckRejected
    (System.new packets (.new N timeout firstSequenceNumber) (.new M firstSequenceNumber)) s

theorem System.RejectingRun.agreement (hf : ∀ p ∈ packets, p.Framed) (hn : packets.length < 65536) (hN : 0 < N)
    (hs : System.RejectingRun packets N M timeout s) :
    (Carried packets s ∧ Ordered s) ∧ ∃ base q, Agreement N.toNat s base q := by
  have hi := initial_selectiveRepeat N M timeout
  constructor
  · exact System.Run.sound hi hf hn hs.reachable
  · exact System.agreement hi (Rt.CircularBuffer.new_aligned hN timeout firstSequenceNumber) hf hn
      (hs.mono (fun _ _ hrejected _ => hrejected.ignored))

theorem System.RejectingRun.windowSize_eq (hf : ∀ p ∈ packets, p.Framed) (hn : packets.length < 65536) (hN : 0 < N)
    (hs : System.RejectingRun packets N M timeout s) : s.receiver.resequencingBuffer.windowSize = M := by
  induction hs with
  | refl => rfl
  | tail ht _ hstep ih =>
    obtain ⟨⟨hc, -⟩, -⟩ := System.RejectingRun.agreement hf hn hN ht
    exact (hc.windowSize_step hstep).trans ih

theorem System.RejectingRun.agrees (hf : ∀ p ∈ packets, p.Framed) (hn : packets.length < 65536) (hN : 0 < N)
    (hs : System.RejectingRun packets N M timeout s) : s.SelectiveRepeatAgrees N M := by
  obtain ⟨⟨hc, ho⟩, base, q, hagree⟩ := hs.agreement hf hn hN
  have hwindows := hagree.windowsAgree hc hn ho
  have haligned : s.transmitter.retransmissionBuffer.window.Aligned base q := hagree.aligned
  refine ⟨fun i p hsent hi => ?_, hwindows.next_bounds.1, ?_, fun hNM p hpoint => ?_⟩
  · rcases hwindows.released i p hsent with hheld | ⟨hlt, -⟩
    · exact hheld
    · exact absurd hlt (Nat.not_lt.mpr hi)
  · rw [haligned.holds.stored_eq, haligned.count_eq]
  · have hlt := (hc.rx.received p (.inr hpoint)).number_lt (fun i p hp => hc.sent_number hp)
      (hc.sent_length_le hn)
    have hnext := hwindows.next_bounds.1
    have hsent := hwindows.sent_eq
    have hcount := hwindows.size.2
    have hNM' : N.toNat ≤ M.toNat := hNM
    rw [hs.windowSize_eq hf hn hN]
    exact Nat.lt_of_lt_of_le hlt (hsent ▸ Nat.add_le_add hnext (Nat.le_trans hcount hNM'))

theorem Rt.CircularBuffer.Aligned.early_ack {b : Rt.CircularBuffer} {base : ℕ} {q : List TransmitBufferObject}
    (h : b.Aligned base q) (hpos : 0 < q.length) (hlt : base + q.length < 65536)
    (hguard : 65535 < b.nextToAck.toNat + b.windowSize.toNat) :
    ∃ w, b.acknowledgePacket 65535 = .ok w ∧ w.packets = [] ∧ w.packetsInBuffer ≠ w.stored := by
  have hnext : b.nextToAck.toNat = base := h.next_toNat (by omega)
  have hmax : (65535 : UInt16).toNat = 65535 := rfl
  have hw := b.windowSize.toNat_lt
  obtain ⟨w, hack, hcleared, -, -, -, hcount⟩ := Rt.CircularBuffer.acknowledgePacket_clears h.holds
    (h.pending_iff.mpr hpos) (a := 65535) (by omega) (by omega)
  have hslots : b.slotsAcked 65535 = 65536 - base := by
    rw [Rt.CircularBuffer.slotsAcked]
    omega
  have hnone : q.drop (b.slotsAcked 65535) = [] := by
    rw [List.drop_eq_nil_iff]
    omega
  rw [hnone] at hcleared
  refine ⟨w, hack, hcleared.packets_eq, ?_⟩
  rw [hcleared.stored_eq, hcount, h.count_eq, List.length_nil]
  omega

theorem System.takes_early_ack {queue : SafeQueue SequenceNumber} {w : Rt.CircularBuffer}
    (hpoint : s.transmitter.transmitThread = .processAckQueue) (hacked : s.transmitter.endOfTxAcked = false)
    (hqueue : s.transmitter.ackQueue = 65535 :: queue) (hend : s.transmitter.endOfTxSeqNum ≠ some 65535)
    (hack : s.transmitter.retransmissionBuffer.window.acknowledgePacket 65535 = .ok w) (now : Clock) :
    ∃ s', s.step (.transmitThread now) = some s' ∧ s'.transmitter.retransmissionBuffer.window = w ∧
      s'.receiver = s.receiver ∧ s'.history.firstSent = s.history.firstSent := by
  have hrelease : RetransmissionBuffer.acknowledgePacket s.transmitter.retransmissionBuffer 65535 =
      .ok (Rt.SelectiveRepeat.mk w) := by
    rw [Rt.OverCircularBuffer.acknowledgePacket_window]
    exact congrArg (Rt.SelectiveRepeat.mk <$> ·) hack
  have hacks : s.transmitter.Transmits now _ none none := .acked hpoint hacked hqueue hend.symm hrelease
  exact ⟨_, Option.map_eq_some_iff.mpr ⟨_, hacks.step, rfl⟩, rfl, rfl, List.append_nil _⟩

theorem Carried.end_ne_early (hc : Carried packets s) (hn : packets.length < 65536) :
    s.transmitter.endOfTxSeqNum ≠ some 65535 := by
  intro hend
  obtain ⟨i, p, hi, -, hnumber⟩ := hc.tx.end_number 65535 hend
  have hlt : i < s.history.firstSent.length := (List.getElem?_eq_some_iff.mp hi).1
  have hlen := hc.sent_length_le hn
  have hmod : (65535 : UInt16).toNat = i % 65536 := congrArg UInt16.toNat hnumber
  have hmax : (65535 : UInt16).toNat = 65535 := rfl
  omega

theorem System.RejectingRun.breaks (hf : ∀ p ∈ packets, p.Framed) (hn : packets.length < 65536) (hN : 0 < N)
    (hs : System.RejectingRun packets N M timeout s) (hstep : s.step act = some s')
    (hbad : ¬ s.EarlyAckRejected act) : ¬ s'.SelectiveRepeatAgrees N M := by
  obtain ⟨⟨hc, ho⟩, base, q, hagree⟩ := hs.agreement hf hn hN
  have haligned : s.transmitter.retransmissionBuffer.window.Aligned base q := hagree.aligned
  have hsent := hagree.sent_eq ho
  have hlen := hc.sent_length_le hn
  have hcount := haligned.count_eq
  cases act with
  | transmitThread now =>
    simp only [EarlyAckRejected, Classical.not_imp, not_or] at hbad
    obtain ⟨hpoint, hacked, hhead, hstored, hguard⟩ := hbad
    obtain ⟨queue, hqueue⟩ := List.head?_eq_some_iff.mp hhead
    obtain ⟨w, hack, -, hmiscounts⟩ := haligned.early_ack (by omega) (by omega) (by omega)
    obtain ⟨t, ht, hwindow, -⟩ := System.takes_early_ack hpoint hacked hqueue (hc.end_ne_early hn) hack now
    obtain rfl : t = s' := Option.some.inj (ht.symm.trans hstep)
    intro hagrees
    exact hmiscounts (hwindow ▸ hagrees.counted)
  | _ => exact absurd trivial hbad

theorem System.Run.earlyAckRejected (hf : ∀ p ∈ packets, p.Framed) (hN : 0 < N)
    (hshort : packets.length + N.toNat < 65536) {s : System Rt.SelectiveRepeat Rs.SelectiveRepeat}
    (hs : System.Run packets (.new N timeout firstSequenceNumber) (.new M firstSequenceNumber) s) :
    System.RejectingRun packets N M timeout s := by
  have hn : packets.length < 65536 := by omega
  induction hs with
  | refl => exact .refl
  | @tail t _ act _ _ hstep ih =>
    refine ih.tail ?_ hstep
    obtain ⟨⟨hc, ho⟩, base, q, hagree⟩ := ih.agreement hf hn hN
    have hsize : t.transmitter.retransmissionBuffer.window.windowSize.toNat = N.toNat := hagree.capacity_eq
    have hsent : t.transmitter.retransmissionBuffer.window.nextToAck.toNat +
        t.transmitter.retransmissionBuffer.window.packetsInBuffer = t.history.firstSent.length :=
      (hagree.windowsAgree hc hn ho).sent_eq
    have hle := hc.sent_length_le_packets
    cases act with
    | transmitThread now =>
      intro _ _ _
      right
      omega
    | _ => trivial

def threePackets : List DataPacket :=
  [⟨⟨5, 0, 1⟩, [5, 0, 0, 0, 1, 0]⟩, ⟨⟨6, 0, 1⟩, [6, 0, 0, 0, 1, 0]⟩, ⟨⟨0, 0, 0⟩, [0, 0, 0, 0, 0]⟩]

theorem threePackets_transmitSide : ∀ p ∈ threePackets, p.TransmitSide := by
  intro p hp
  simp only [threePackets, List.mem_cons, List.not_mem_nil, or_false] at hp
  rcases hp with rfl | rfl | rfl
  · exact .ofHeader ⟨5, 0, 1⟩ (by decide)
  · exact .ofHeader ⟨6, 0, 1⟩ (by decide)
  · exact .default (by decide)

theorem threePackets_endsTransmission : EndsTransmission threePackets := by
  rintro (_ | _ | _ | i) p hp
  · obtain rfl := Option.some.inj hp
    decide
  · obtain rfl := Option.some.inj hp
    decide
  · obtain rfl := Option.some.inj hp
    decide
  · cases hp

def earlyAckRun : List Action :=
  let now : Clock := fun _ => 0
  let receives (i : ℕ) : List Action := [.resequencingThread now, .rxReceive i emptyReceiveBuffer,
    .resequencingThread now, .resequencingThread now, .resequencingThread now]
  [Action.sendPacket now, .sendPacket now, .sendPacket now] ++ List.replicate 9 (Action.transmitThread now) ++
    receives 2 ++ [Action.resequencingThread now] ++ List.replicate 4 Action.rxAckThread ++
    receives 0 ++ [Action.resequencingThread now, .resequencingThread now] ++ List.replicate 4 Action.rxAckThread ++
    [Action.txAckThread, .txReceive 1 emptyReceiveBuffer, .txAckThread, .txAckThread,
      .txReceive 0 emptyReceiveBuffer, .txAckThread] ++ List.replicate 3 (Action.transmitThread now)

theorem earlyAckRun_reaches : ∃ (s : System Rt.SelectiveRepeat Rs.SelectiveRepeat) (q : List TransmitBufferObject),
    System.RejectingRun threePackets 65535 3 100 s ∧
    s.transmitter.retransmissionBuffer.window.Aligned 1 q ∧ q.length = 2 ∧
    s.transmitter.retransmissionBuffer.window.windowSize.toNat = 65535 ∧
    s.transmitter.transmitThread = .processAckQueue ∧ s.transmitter.endOfTxAcked = false ∧
    s.transmitter.ackQueue = [65535] ∧ s.transmitter.endOfTxSeqNum = some 2 ∧
    s.receiver.resequencingBuffer.earliestExpected = 1 ∧ s.history.firstSent.length = 3 := by
  let s₀ := System.new threePackets (⟨100, 65535, 0, []⟩ : SentQueue) (Rs.SelectiveRepeat.new 3 firstSequenceNumber)
  have hquiet : Runs.AlongRun System.stepRunning (fun s _ => s.transmitter.ackQueue.head? ≠ some 65535) s₀
      earlyAckRun := by decide +kernel
  have hrun : ((Runs.replay System.stepRunning s₀ earlyAckRun).any
        fun s => s.transmitter.transmitThread == .processAckQueue && !s.transmitter.endOfTxAcked &&
          s.transmitter.ackQueue == [65535] && s.transmitter.endOfTxSeqNum == some 2 &&
          s.transmitter.retransmissionBuffer.base == 1 && s.transmitter.retransmissionBuffer.queue.length == 2 &&
          s.transmitter.retransmissionBuffer.windowSize == 65535 &&
          s.receiver.resequencingBuffer.earliestExpected == 1 && s.history.firstSent.length == 3) = true := by
    decide +kernel
  obtain ⟨s, hs, htest⟩ := (Option.any_eq_true _ _).mp hrun
  simp only [Bool.and_eq_true, beq_iff_eq, Bool.not_eq_true'] at htest
  obtain ⟨⟨⟨⟨⟨⟨⟨⟨hpoint, hacked⟩, hqueue⟩, hend⟩, hbase⟩, hlength⟩, hsize⟩, hexpected⟩, hsent⟩ := htest
  have hnew : SentQueue.Simulates (Rt.SelectiveRepeat.new 65535 100 firstSequenceNumber) ⟨100, 65535, 0, []⟩ :=
    SentQueue.new_simulates (N := 65535) (by decide) 100 firstSequenceNumber rfl
  have hrejected : ∀ (s : System SentQueue Rs.SelectiveRepeat) (b : Rt.SelectiveRepeat) (act : Action),
      s.transmitter.ackQueue.head? ≠ some 65535 → (s.withBuffer b).EarlyAckRejected act := by
    intro s b act hhead
    cases act with
    | transmitThread now => exact fun _ _ hqueue => absurd hqueue hhead
    | _ => trivial
  obtain ⟨b, hb, hreach⟩ := System.replay_withBuffer hrejected hnew hquiet hs
  exact ⟨s.withBuffer b, _, hreach, hbase ▸ hb.aligned, hlength, hb.size.trans hsize, hpoint, hacked, hqueue, hend,
    hexpected, hsent⟩

/-- As long as no early ACK is taken for an ACK of everything, no packet is released before it has been
delivered; the first one that is breaks the agreement. -/
theorem selective_repeat_windows_agree (packets : List DataPacket) (hp : ∀ p ∈ packets, p.TransmitSide)
    (hn : packets.length < 2 ^ 16) (N M : UInt16) (hN : 0 < N) (timeout : ℤ)
    (s : System Rt.SelectiveRepeat Rs.SelectiveRepeat) (hs : System.RejectingRun packets N M timeout s) :
    s.SelectiveRepeatAgrees N M ∧
      ∀ act s', s.step act = some s' → ¬ s.EarlyAckRejected act → ¬ s'.SelectiveRepeatAgrees N M := by
  have hf : ∀ p ∈ packets, p.Framed := fun p hmem => (hp p hmem).framed
  exact ⟨hs.agrees hf hn hN, fun act s' hstep hbad => hs.breaks hf hn hN hstep hbad⟩

/-- The same ACK is rejected where the window is as small as the number of packets, and releases packet 1 where it
is not. -/
theorem selective_repeat_windows_agree_run :
    (∃ s t, System.Run threePackets (.new 3 100 firstSequenceNumber) (.new 3 firstSequenceNumber) s ∧
      s.transmitter.ackQueue = [65535] ∧ s.transmitter.retransmissionBuffer.window.packetsInBuffer = 2 ∧
      s.step (.transmitThread fun _ => 0) = some t ∧ t.transmitter.ackQueue = [] ∧ t.SelectiveRepeatAgrees 3 3) ∧
    ∃ s t, System.RejectingRun threePackets 65535 3 100 s ∧ s.step (.transmitThread fun _ => 0) = some t ∧
      s.SelectiveRepeatAgrees 65535 3 ∧ ¬ t.SelectiveRepeatAgrees 65535 3 := by
  have hf : ∀ p ∈ threePackets, p.Framed := fun p hp => (threePackets_transmitSide p hp).framed
  constructor
  · have hrun : ((Runs.replay System.step (System.new threePackets (Rt.SelectiveRepeat.new 3 100 firstSequenceNumber)
        (Rs.SelectiveRepeat.new 3 firstSequenceNumber)) earlyAckRun).any fun s =>
          s.transmitter.ackQueue == [65535] && s.transmitter.retransmissionBuffer.window.packetsInBuffer == 2 &&
          (s.step (.transmitThread fun _ => 0)).any fun t => t.transmitter.ackQueue == []) = true := by
      decide +kernel
    obtain ⟨s, hs, htest⟩ := Runs.exists_reachable hrun
    simp only [Bool.and_eq_true, beq_iff_eq, Option.any_eq_true] at htest
    obtain ⟨⟨hqueue, hcount⟩, t, ht, hempty⟩ := htest
    have hrejecting : System.RejectingRun threePackets 3 3 100 t :=
      System.Run.earlyAckRejected hf (by decide) (by decide) (Runs.Reachable.next hs ht)
    exact ⟨s, t, hs, hqueue, hcount, ht, hempty, (selective_repeat_windows_agree threePackets
      threePackets_transmitSide (by decide) 3 3 (by decide) 100 t hrejecting).1⟩
  · obtain ⟨s, q, hrun, haligned, hlength, hsize, hpoint, hacked, hqueue, hend, -⟩ := earlyAckRun_reaches
    have hnext : s.transmitter.retransmissionBuffer.window.nextToAck.toNat = 1 := haligned.next_toNat (by decide)
    have hcount := haligned.count_eq
    obtain ⟨w, hack, -⟩ := haligned.early_ack (by omega) (by omega) (by omega)
    obtain ⟨t, ht, -⟩ := System.takes_early_ack hpoint hacked hqueue (by rw [hend]; decide) hack fun _ => 0
    obtain ⟨hagrees, hbreaks⟩ := selective_repeat_windows_agree threePackets threePackets_transmitSide (by decide)
      65535 3 (by decide) 100 s hrun
    refine ⟨s, t, hrun, ht, hagrees, hbreaks _ t ht fun hrejected => ?_⟩
    rcases hrejected hpoint hacked (by rw [hqueue]; rfl) with hzero | hguard
    · omega
    · omega

/-- The ACK 65535 that the receiver returned for packet 2 releases packet 1, which it has not received. -/
theorem early_ack_releases_undelivered :
    (∀ p ∈ threePackets, p.TransmitSide) ∧ EndsTransmission threePackets ∧
    ∃ s, System.Run threePackets (Rt.SelectiveRepeat.new 65535 100 firstSequenceNumber)
      (Rs.SelectiveRepeat.new 3 firstSequenceNumber) s ∧ ¬ s.SelectiveRepeatAgrees 65535 3 := by
  obtain ⟨s, q, hrun, haligned, hlength, hsize, hpoint, hacked, hqueue, hend, hexpected, hsent⟩ := earlyAckRun_reaches
  have hnext : s.transmitter.retransmissionBuffer.window.nextToAck.toNat = 1 := haligned.next_toNat (by decide)
  obtain ⟨w, hack, hempty, -⟩ := haligned.early_ack (by omega) (by omega) (by omega)
  obtain ⟨s', hs', hwindow, hreceiver, hfirst⟩ :=
    System.takes_early_ack hpoint hacked hqueue (by rw [hend]; decide) hack fun _ => 0
  refine ⟨threePackets_transmitSide, threePackets_endsTransmission, s', hrun.reachable.next hs', fun hagrees => ?_⟩
  obtain ⟨p, hp⟩ : ∃ p, s.history.firstSent[1]? = some p := ⟨_, List.getElem?_eq_getElem (by omega)⟩
  have hheld := hagrees.held 1 p (by rw [hfirst, hp]) (by
    rw [hreceiver, hexpected]
    decide)
  rw [hwindow, hempty] at hheld
  exact absurd hheld List.not_mem_nil

end ArqBenchmark
