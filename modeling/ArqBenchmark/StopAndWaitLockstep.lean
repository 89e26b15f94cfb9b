import ArqBenchmark.SlidingWindow

namespace ArqBenchmark

open ResequencingView DataPacket

structure AcceptedOnce (accepted : List DataPacket) (b : Rs.StopAndWait) : Prop where
  below : ∀ p ∈ accepted, p.header.sequenceNumber.toNat < frontier b
  nodup : (accepted.map fun p => p.header.sequenceNumber).Nodup

variable {accepted : List DataPacket} {packets : List DataPacket}

theorem AcceptedOnce.mono {b b' : Rs.StopAndWait} (h : AcceptedOnce accepted b)
    (hle : frontier b ≤ frontier b') :
    AcceptedOnce accepted b' :=
  ⟨fun p hp => Nat.lt_of_lt_of_le (h.below p hp) hle, h.nodup⟩

theorem AcceptedOnce.accept {b b' : Rs.StopAndWait} {p : DataPacket} {ack : Option SequenceNumber}
    (h : AcceptedOnce accepted b) (hadd : ResequencingBuffer.addPacket b p = .ok (ack, b'))
    (haccepts : ResequencingBuffer.accepts b p = true) : AcceptedOnce (accepted ++ [p]) b' := by
  obtain ⟨expected, waiting⟩ := b
  obtain ⟨hwaiting, heq⟩ : waiting = none ∧ p.header.sequenceNumber = expected := by
    simpa [ResequencingBuffer.accepts, Rs.StopAndWait.accepts, DataPacket.getHeader] using haccepts
  subst hwaiting heq
  obtain rfl : { expectedPacketSeqNum := p.header.sequenceNumber, packetForDelivery := some p } = b' := by
    simpa [ResequencingBuffer.addPacket, Rs.StopAndWait.addPacket, DataPacket.getHeader] using
      congrArg Prod.snd (Except.ok.inj hadd)
  have hbelow : ∀ x ∈ accepted, x.header.sequenceNumber.toNat < p.header.sequenceNumber.toNat := h.below
  refine ⟨fun x hx => ?_, ?_⟩
  · change x.header.sequenceNumber.toNat < p.header.sequenceNumber.toNat + 1
    rcases List.mem_append.mp hx with hx | hx
    · exact Nat.lt_succ_of_lt (hbelow x hx)
    · rw [List.mem_singleton.mp hx]
      exact Nat.lt_succ_self _
  · rw [List.map_append, List.map_singleton, List.nodup_append]
    refine ⟨h.nodup, List.nodup_singleton _, ?_⟩
    rintro sn hsn _ hlast rfl
    obtain ⟨x, hx, hsn'⟩ := List.mem_map.mp hsn
    have hlt := hbelow x hx
    rw [hsn', List.mem_singleton.mp hlast] at hlt
    exact Nat.lt_irrefl _ hlt

theorem AcceptedOnce.length_eq {b : Rs.StopAndWait} (h : AcceptedOnce accepted b)
    (hcovered : ∀ i < frontier b, ∃ p ∈ accepted, p.header.sequenceNumber.toNat = i) :
    accepted.length = frontier b := by
  have hnodup : (accepted.map fun p => p.header.sequenceNumber.toNat).Nodup := by
    have hmap := h.nodup.map fun _ _ => UInt16.toNat_inj.mp
    rwa [List.map_map] at hmap
  have hperm : (accepted.map fun p => p.header.sequenceNumber.toNat).Perm (List.range (frontier b)) := by
    refine (List.perm_ext_iff_of_nodup hnodup List.nodup_range).mpr fun i => ?_
    rw [List.mem_range, List.mem_map]
    constructor
    · rintro ⟨p, hp, rfl⟩
      exact h.below p hp
    · exact hcovered i
  simpa using hperm.length_eq

section Runs

variable {s s' : System Rt.StopAndWait Rs.StopAndWait} {act : Action}

theorem AcceptedOnce.step (h : AcceptedOnce s.history.rsAccepted s.receiver.resequencingBuffer)
    (hc : Carried packets s) (hn : packets.length < 65536) (ho : Ordered s) (hs : s.step act = some s') :
    AcceptedOnce s'.history.rsAccepted s'.receiver.resequencingBuffer := by
  have hmono := (hc.rx_step hn ho hs).2
  rcases System.resequences_or_same hs with ⟨now, r, accepted, delivered, hr, rfl⟩ | hsame
  · cases hr with
    | @added p ack b _ hadd =>
      by_cases haccepts : ResequencingBuffer.accepts s.receiver.resequencingBuffer p = true
      · simp only [haccepts, ↓reduceIte, Option.toList_some]
        exact h.accept hadd haccepts
      · simp only [haccepts, Bool.false_eq_true, ↓reduceIte, Option.toList_none, List.append_nil]
        exact h.mono hmono
    | _ =>
      simp only [Option.toList_none, List.append_nil]
      exact h.mono hmono
  · rw [hsame.rsAccepted]
    exact h.mono hmono

end Runs

/-- What the two ends of a stop-and-wait connection agree on. `accepted` packets have been accepted by the
resequencing buffer. -/
structure System.InLockstep (s : System Rt.StopAndWait Rs.StopAndWait) (accepted : ℕ) : Prop where
  count : s.history.rsAccepted.length = accepted
  waiting : ∀ o, s.transmitter.retransmissionBuffer.retransmitPacket = some o →
    (accepted = o.info.sequenceNumber.toNat ∨ accepted = o.info.sequenceNumber.toNat + 1) ∧
      o.info.sequenceNumber.toNat + 1 = s.history.firstSent.length
  idle : s.transmitter.retransmissionBuffer.retransmitPacket = none → accepted = s.history.firstSent.length
  acks : ∀ a, s.HasAck a → a.toNat < accepted
  once : (s.history.rsAccepted.map fun p => p.header.sequenceNumber).Nodup
  discarded : ∀ (i : ℕ) (p : DataPacket), s.history.firstSent[i]? = some p →
    (∃ o, s.transmitter.retransmissionBuffer.retransmitPacket = some o ∧ o.packet = p) ∨
      ∃ p' ∈ s.history.rsAccepted, p'.IsCopy p

theorem stop_and_wait_lockstep (packets : List DataPacket) (hp : ∀ p ∈ packets, p.TransmitSide)
    (hn : packets.length < 2 ^ 16) (timeout : ℤ) (s : System Rt.StopAndWait Rs.StopAndWait)
    (hs : System.Run packets (.new timeout) (.new firstSequenceNumber) s) :
    s.InLockstep (s.receiver.resequencingBuffer.expectedPacketSeqNum.toNat +
      if s.receiver.resequencingBuffer.packetForDelivery.isSome then 1 else 0) := by
  have hf : ∀ p ∈ packets, p.Framed := fun p hmem => (hp p hmem).framed
  have hi := initial_stopAndWait timeout
  obtain ⟨hc, ho⟩ := hs.sound hi hf hn
  have hlen := hc.sent_length_le hn
  have honce : AcceptedOnce s.history.rsAccepted s.receiver.resequencingBuffer := by
    refine Runs.Reaches.invariant_of (K := fun s => Carried packets s ∧ Ordered s)
      (P := fun s : System Rt.StopAndWait Rs.StopAndWait =>
        AcceptedOnce s.history.rsAccepted s.receiver.resequencingBuffer) hs ⟨?_, List.nodup_nil⟩
      (fun t ht => System.Run.sound hi hf hn ht.reachable)
      (fun t act u ht _ honce _ hstep => honce.step ht.1 hn ht.2 hstep)
    exact fun p hp => by cases hp
  obtain ⟨base, q, hagree⟩ := System.agreement hi (Rt.StopAndWait.new_keepsFrom timeout) hf hn
    (hs.mono (fun _ _ _ hearly => hearly.elim))
  have hsent := hagree.sent_eq ho
  have hle := ho.rx.frontier_le
  have hbase := hagree.base_le
  obtain ⟨hkeeps, -, hnumbers⟩ : s.transmitter.retransmissionBuffer.KeepsFrom base q := hagree.aligned
  rw [Rt.StopAndWait.Keeps] at hkeeps
  refine ⟨honce.length_eq ho.rx.covered, fun o hwaiting => ?_, fun hidle => ?_, fun a ha => ?_, honce.nodup,
    fun i p hp => ?_⟩
  · rw [hwaiting, Option.toList_some] at hkeeps
    subst hkeeps
    rw [List.length_singleton] at hsent
    have hnumber : o.info.sequenceNumber.toNat = base := by
      rw [hnumbers 0 o rfl, toNat_ofNat_of_lt (by omega), Nat.add_zero]
    rw [hnumber]
    exact ⟨by change frontier s.receiver.resequencingBuffer = _ ∨ frontier s.receiver.resequencingBuffer = _; omega,
      hsent⟩
  · rw [hidle, Option.toList_none] at hkeeps
    subst hkeeps
    exact Nat.le_antisymm hle (hsent ▸ hbase)
  · rcases ho.acks a ha with hlt | ⟨hearly, -⟩
    · exact hlt
    · exact hearly.elim
  · rcases hagree.released hc hn ho hp with hheld | ⟨-, haccepted⟩
    · obtain ⟨o, ho, rfl⟩ := List.mem_map.mp hheld
      rw [← hkeeps] at ho
      exact .inl ⟨o, Option.mem_toList.mp ho, rfl⟩
    · exact .inr haccepted

theorem stop_and_wait_lockstep_run :
    ∃ s, System.Run samplePackets (.new 100) (.new firstSequenceNumber) s ∧
      s.history.firstSent.length = 2 ∧ s.InLockstep (s.receiver.resequencingBuffer.expectedPacketSeqNum.toNat +
        if s.receiver.resequencingBuffer.packetForDelivery.isSome then 1 else 0) := by
  have hrun : ((Runs.replay System.step (System.new samplePackets (Rt.StopAndWait.new 100)
      (Rs.StopAndWait.new firstSequenceNumber)) sampleRun).any
        fun s => s.history.firstSent.length == 2) = true := by
    decide +kernel
  obtain ⟨s, hs, hlen⟩ := Runs.exists_reachable hrun
  exact ⟨s, hs, by simpa using hlen,
    stop_and_wait_lockstep samplePackets samplePackets_transmitSide (by decide) 100 s hs⟩

end ArqBenchmark
