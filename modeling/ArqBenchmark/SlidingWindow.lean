import ArqBenchmark.Delivery

namespace ArqBenchmark

open ResequencingView DataPacket LawfulRetransmission

variable {B R : Type} [RetransmissionBuffer B] [LawfulRetransmission B] [ResequencingView R]

variable {packets : List DataPacket} {rtBuffer : B} {rsBuffer : R} {s s' : System B R} {act : Action}
  {base size : ℕ} {q : List TransmitBufferObject}

/-- The transmitter holds the packets sent from `base` on, and everything before them has been accepted in
order. -/
structure Agreement (size : ℕ) (s : System B R) (base : ℕ) (q : List TransmitBufferObject) : Prop where
  aligned : Aligned s.transmitter.retransmissionBuffer base q
  capacity_eq : capacity s.transmitter.retransmissionBuffer = size
  packets_eq : q.map TransmitBufferObject.packet = s.history.firstSent.drop base
  base_le : base ≤ frontier s.receiver.resequencingBuffer

/-- The value 65535 that an `early` buffer returns is not taken for an ACK of everything. -/
def EarlyAckIgnored (s : System B R) (act : Action) : Prop :=
  ∀ now queue, act = .transmitThread now → s.transmitter.transmitThread = .processAckQueue →
    s.transmitter.endOfTxAcked = false → s.transmitter.ackQueue = 65535 :: queue →
    some 65535 ≠ s.transmitter.endOfTxSeqNum →
    RetransmissionBuffer.acknowledgePacket s.transmitter.retransmissionBuffer 65535 =
      .ok s.transmitter.retransmissionBuffer

theorem Agreement.sent_eq (h : Agreement size s base q) (ho : Ordered s) :
    base + q.length = s.history.firstSent.length := by
  have hlen := congrArg List.length h.packets_eq
  have hbase := Nat.le_trans h.base_le ho.rx.frontier_le
  rw [List.length_map, List.length_drop] at hlen
  omega

theorem Agreement.tryGetPacketSpan (h : Agreement size s base q) {now : Clock}
    {span : Option (List Byte)} {b : B}
    (htry : RetransmissionBuffer.tryGetPacketSpan s.transmitter.retransmissionBuffer now = .ok (span, b)) :
    ∃ q', Aligned b base q' ∧ capacity b = size ∧
      q'.map TransmitBufferObject.packet = s.history.firstSent.drop base := by
  obtain ⟨span', b', q', htry', hq', hheld, hcapacity⟩ := aligned_tryGetPacketSpan h.aligned now
  obtain ⟨rfl, rfl⟩ := Prod.mk.inj (Except.ok.inj (htry.symm.trans htry'))
  refine ⟨q', hq', hcapacity.trans h.capacity_eq, ?_⟩
  have hpacket := congrArg (List.map Prod.fst) hheld
  rw [List.map_map, List.map_map] at hpacket
  exact hpacket.trans h.packets_eq

theorem Agreement.addPacket (h : Agreement size s base q) (hc : Carried packets s) (ho : Ordered s)
    {newPkt : TransmitBufferObject} {queue : SafeQueue TransmitBufferObject} {b : B}
    (hroom : s.history.firstSent.length < 65536)
    (hready : RetransmissionBuffer.readyForNewPacket s.transmitter.retransmissionBuffer = true)
    (hqueue : s.transmitter.inputBuffer.inputPackets = newPkt :: queue)
    (hadd : RetransmissionBuffer.addPacket s.transmitter.retransmissionBuffer newPkt = .ok b) :
    Aligned b base (q ++ [newPkt]) ∧ capacity b = size ∧
      (q ++ [newPkt]).map TransmitBufferObject.packet = (s.history.firstSent ++ [newPkt.packet]).drop base := by
  have hsent := h.sent_eq ho
  have hnumber : newPkt.info.sequenceNumber = UInt16.ofNat (base + q.length) := by
    rw [hsent]
    exact hc.tx.queued_number 0 newPkt (by rw [hqueue]; rfl)
  obtain ⟨b', hadd', hb, hcapacity⟩ := aligned_addPacket h.aligned hready hnumber (hsent ▸ hroom)
  obtain rfl := Except.ok.inj (hadd.symm.trans hadd')
  refine ⟨hb, hcapacity.trans h.capacity_eq, ?_⟩
  rw [List.map_append, h.packets_eq, List.drop_append_of_le_length (by omega)]
  rfl

theorem Agreement.acknowledgePacket (h : Agreement size s base q) (ho : Ordered s) {a : SequenceNumber} {b : B}
    (ha : a.toNat < frontier s.receiver.resequencingBuffer)
    (hack : RetransmissionBuffer.acknowledgePacket s.transmitter.retransmissionBuffer a = .ok b) :
    ∃ k, Aligned b (base + k) (q.drop k) ∧ capacity b = size ∧
      (q.drop k).map TransmitBufferObject.packet = s.history.firstSent.drop (base + k) ∧
      base + k ≤ frontier s.receiver.resequencingBuffer := by
  have hstored : a.toNat < base + q.length := by
    rw [h.sent_eq ho]
    exact Nat.lt_of_lt_of_le ha ho.rx.frontier_le
  obtain ⟨b', k, hack', hb, hk, hle, hcapacity⟩ := aligned_acknowledgePacket h.aligned hstored
  obtain rfl := Except.ok.inj (hack.symm.trans hack')
  refine ⟨k, hb, hcapacity.trans h.capacity_eq, ?_, ?_⟩
  · rw [List.map_drop, h.packets_eq, List.drop_drop]
  · have hbase := h.base_le
    omega

theorem Agreement.transmits (h : Agreement size s base q) (hc : Carried packets s)
    (hn : packets.length < 65536) (ho : Ordered s) {now : Clock}
    (hquiet : early R → EarlyAckIgnored s (.transmitThread now)) {t : Transmitter B} {d : Option (List Byte)}
    {p : Option DataPacket} (ht : s.transmitter.Transmits now t d p) :
    ∃ base' q', Aligned t.retransmissionBuffer base' q' ∧ capacity t.retransmissionBuffer = size ∧
      q'.map TransmitBufferObject.packet = (s.history.firstSent ++ p.toList).drop base' ∧
      base' ≤ frontier s.receiver.resequencingBuffer := by
  have hroom := hc.sent_length_le hn
  cases ht with
  | retransmitted _ htry =>
    obtain ⟨q', hq', hcapacity, hpackets⟩ := h.tryGetPacketSpan htry
    exact ⟨base, q', hq', hcapacity, by rwa [Option.toList_none, List.append_nil], h.base_le⟩
  | noneTimedOut _ htry =>
    obtain ⟨q', hq', hcapacity, hpackets⟩ := h.tryGetPacketSpan htry
    exact ⟨base, q', hq', hcapacity, by rwa [Option.toList_none, List.append_nil], h.base_le⟩
  | sent _ hready hqueue hadd =>
    obtain ⟨hb, hcapacity, hpackets⟩ := h.addPacket hc ho (by omega) hready hqueue hadd
    exact ⟨base, _, hb, hcapacity, hpackets, h.base_le⟩
  | @sendFault newPkt queue fault _ hready hqueue hadd =>
    obtain ⟨q', hq', -⟩ := hc.tx.held
    obtain ⟨b, hadd', -⟩ := LawfulRetransmission.addPacket hq' hready newPkt
    cases hadd.symm.trans hadd'
  | @acked sn queue b hpoint hacked hqueue hend hack =>
    have hsn : s.HasAck sn := .inr (.inr (.inr (hqueue ▸ List.mem_cons_self)))
    -- An ACK is for packets accepted in order, or it is the early 65535, which changes nothing.
    rcases ho.acks sn hsn with hlt | ⟨hearly, rfl⟩
    · obtain ⟨k, hb, hcapacity, hpackets, hle⟩ := h.acknowledgePacket ho hlt hack
      exact ⟨base + k, _, hb, hcapacity, by rwa [Option.toList_none, List.append_nil], hle⟩
    · have hsame := hquiet hearly now queue rfl hpoint hacked hqueue hend
      obtain rfl := Except.ok.inj (hack.symm.trans hsame)
      exact ⟨base, q, h.aligned, h.capacity_eq, by rw [Option.toList_none, List.append_nil, h.packets_eq],
        h.base_le⟩
  | _ =>
    exact ⟨base, q, h.aligned, h.capacity_eq, by rw [Option.toList_none, List.append_nil, h.packets_eq],
      h.base_le⟩

theorem Agreement.released (h : Agreement size s base q) (hc : Carried packets s) (hn : packets.length < 65536)
    (ho : Ordered s) {i : ℕ} {p : DataPacket} (hp : s.history.firstSent[i]? = some p) :
    p ∈ q.map TransmitBufferObject.packet ∨
      i < frontier s.receiver.resequencingBuffer ∧ ∃ p' ∈ s.history.rsAccepted, p'.IsCopy p := by
  -- Below `base` the packet has been accepted in order, from `base` on it is still held.
  by_cases hi : i < base
  · have hlt := Nat.lt_of_lt_of_le hi h.base_le
    obtain ⟨p', hp', hsn⟩ := ho.rx.covered i hlt
    obtain ⟨q', hq', hcopy⟩ :=
      (ho.rx.received p' hp').number (fun i p hp => hc.sent_number hp) (hc.sent_length_le hn)
    rw [hsn, hp] at hq'
    obtain rfl := Option.some.inj hq'
    exact .inr ⟨hlt, p', hp', hcopy⟩
  · rw [h.packets_eq]
    refine .inl (List.mem_of_getElem? (i := i - base) ?_)
    rw [List.getElem?_drop, Nat.add_sub_cancel' (Nat.le_of_not_lt hi), hp]

variable [ResequencingBuffer R] [LawfulResequencing R]

theorem Agreement.step (h : Agreement size s base q) (hc : Carried packets s) (hn : packets.length < 65536)
    (ho : Ordered s) (hquiet : early R → EarlyAckIgnored s act) (hs : s.step act = some s') :
    ∃ base' q', Agreement size s' base' q' := by
  have hmono := (hc.rx_step hn ho hs).2
  rcases System.transmits_or_same hs with ⟨now, t, d, p, rfl, ht, rfl⟩ | hsame
  · obtain ⟨base', q', hb, hcapacity, hpackets, hle⟩ := h.transmits hc hn ho hquiet ht
    exact ⟨base', q', hb, hcapacity, hpackets, hle⟩
  · exact ⟨base, q, hsame.retransmissionBuffer ▸ h.aligned, hsame.retransmissionBuffer ▸ h.capacity_eq,
      hsame.firstSent ▸ h.packets_eq, Nat.le_trans h.base_le hmono⟩

theorem System.agreement (hi : Initial rtBuffer rsBuffer) (haligned : Aligned rtBuffer 0 [])
    (hf : ∀ p ∈ packets, p.Framed) (hn : packets.length < 65536)
    (h : Runs.Reaches (fun s a s' => System.step s a = some s') (fun s act => early R → EarlyAckIgnored s act)
      (System.new packets rtBuffer rsBuffer) s) :
    ∃ base q, Agreement (capacity rtBuffer) s base q := by
  refine Runs.Reaches.invariant_of (P := fun s => ∃ base q, Agreement (capacity rtBuffer) s base q)
    (K := fun s => Carried packets s ∧ Ordered s) h ⟨0, [], haligned, rfl, rfl, Nat.zero_le _⟩
    (fun t ht => System.Run.sound hi hf hn ht.reachable) ?_
  rintro t act u ⟨hc, ho⟩ - ⟨base, q, hagree⟩ hquiet hs
  exact hagree.step hc hn ho hquiet hs

end ArqBenchmark
