import ArqBenchmark.CircularBuffer

namespace ArqBenchmark.Rt.CircularBuffer

variable {b : CircularBuffer} {q : List TransmitBufferObject} {o : TransmitBufferObject} {base : ℕ}

/-- The packets of the buffer have the consecutive sequence numbers from `base` on, `nextToAck_` is
the first of them and `packetsInBuffer_` counts them. -/
structure Aligned (b : CircularBuffer) (base : ℕ) (q : List TransmitBufferObject) : Prop where
  holds : b.Holds q
  count_eq : b.packetsInBuffer = q.length
  next_eq : b.nextToAck = UInt16.ofNat base
  sequence : ∀ i o, q[i]? = some o → o.info.sequenceNumber = UInt16.ofNat (base + i)
  bound : base + q.length ≤ 65536

theorem Aligned.ready_iff (h : b.Aligned base q) :
    b.readyForNewPacket = true ↔ q.length < b.windowSize.toNat := by
  rw [readyForNewPacket, decide_eq_true_eq, h.count_eq]

theorem Aligned.pending_iff (h : b.Aligned base q) : b.packetsPending = true ↔ 0 < q.length := by
  rw [packetsPending, decide_eq_true_eq, h.count_eq]

theorem new_aligned {windowSize : UInt16} (hw : 0 < windowSize.toNat) (timeout : ℤ)
    (first : SequenceNumber) : (new windowSize timeout first).Aligned first.toNat [] where
  holds := new_holds hw timeout first
  count_eq := rfl
  next_eq := (UInt16.ofNat_toNat (x := first)).symm
  sequence := by simp
  bound := Nat.le_of_lt first.toNat_lt

theorem Aligned.addPacket (h : b.Aligned base q) (hroom : q.length < b.windowSize.toNat)
    (ho : o.info.sequenceNumber = UInt16.ofNat (base + q.length)) (hb : base + q.length < 65536)
    (full : String) :
    ∃ b', b.addPacket full o = .ok b' ∧ b'.Aligned base (q ++ [o]) ∧ b'.windowSize = b.windowSize ∧
      b'.timeoutInterval = b.timeoutInterval := by
  obtain ⟨b', hadd, hholds, hw, ht, hn, hc⟩ := addPacket_holds h.holds (h.ready_iff.mpr hroom) full o
  refine ⟨b', hadd, ⟨hholds, ?_, hn.trans h.next_eq, ?_, ?_⟩, hw, ht⟩
  · rw [hc, h.count_eq, List.length_append, List.length_singleton]
  · intro i o' ho'
    by_cases hi : i < q.length
    · rw [List.getElem?_append_left hi] at ho'
      exact h.sequence i o' ho'
    · rw [List.getElem?_append_right (by omega)] at ho'
      obtain ⟨hlast, hi'⟩ := List.getElem?_eq_some_iff.mp ho'
      rw [List.length_singleton] at hlast
      obtain rfl : i = q.length := by omega
      simp only [Nat.sub_self, List.getElem_cons_zero] at hi'
      rw [← hi', ho]
  · rw [List.length_append, List.length_singleton]
    omega

theorem Aligned.addPacket_full (h : b.Aligned base q) (hfull : q.length = b.windowSize.toNat)
    (full : String) : b.addPacket full o = .error (.arqProtocolException full) := by
  rcases addPacket_eq h.holds full o with ⟨_, he⟩ | ⟨_, -, -, hlt, -⟩
  · exact he
  · omega

theorem firstTimedOut_eq_set {timeoutInterval : ℤ} {now : Clock}
    {r : TransmitBufferObject × List TransmitBufferObject} (h : firstTimedOut timeoutInterval now q = some r) :
    ∃ k t, q[k]? = some r.1 ∧ r.2 = q.set k (r.1.updateLastTxTime t) := by
  obtain ⟨k, hk, hset⟩ := BoundedFifo.touchFirst_eq_set h
  exact ⟨k, _, hk, hset⟩

theorem Aligned.set (h : b.Aligned base q) {k : ℕ} {t : Time} (hk : q[k]? = some o)
    {buffer : List (Option TransmitBufferObject)}
    (hholds : ({ b with buffer := buffer } : CircularBuffer).Holds (q.set k (o.updateLastTxTime t))) :
    ({ b with buffer := buffer } : CircularBuffer).Aligned base (q.set k (o.updateLastTxTime t)) where
  holds := hholds
  count_eq := h.count_eq.trans List.length_set.symm
  next_eq := h.next_eq
  sequence := by
    intro i o' ho'
    by_cases hik : k = i
    · subst hik
      have hlt : k < q.length := (List.getElem?_eq_some_iff.mp hk).1
      rw [List.getElem?_set_self hlt] at ho'
      rw [← Option.some.inj ho']
      exact h.sequence k o hk
    · rw [List.getElem?_set_ne hik] at ho'
      exact h.sequence i o' ho'
  bound := by
    rw [List.length_set]
    exact h.bound

theorem Aligned.tryGetPacketSpan (h : b.Aligned base q) (now : Clock) :
    ∃ b', b.tryGetPacketSpan now =
        .ok ((firstTimedOut b.timeoutInterval now q).map (fun r => r.1.packet.getReadSpan), b') ∧
      b'.Aligned base (((firstTimedOut b.timeoutInterval now q).map Prod.snd).getD q) ∧
      b'.windowSize = b.windowSize ∧ b'.timeoutInterval = b.timeoutInterval := by
  obtain ⟨buffer, htry, hholds⟩ := tryGetPacketSpan_eq h.holds now
  refine ⟨_, htry, ?_, rfl, rfl⟩
  cases hf : firstTimedOut b.timeoutInterval now q with
  | none =>
    rw [hf] at hholds
    exact ⟨hholds, h.count_eq, h.next_eq, h.sequence, h.bound⟩
  | some r =>
    obtain ⟨k, t, hk, hset⟩ := firstTimedOut_eq_set hf
    rw [hf] at hholds
    simp only [Option.map_some, Option.getD_some, hset] at hholds ⊢
    exact h.set hk hholds

theorem Aligned.next_toNat (h : b.Aligned base q) (hb : base < 65536) : b.nextToAck.toNat = base := by
  rw [h.next_eq, toNat_ofNat_of_lt hb]

theorem Aligned.acknowledgePacket (h : b.Aligned base q) {a : SequenceNumber}
    (ha : q ≠ [] → a.toNat < base + q.length) :
    ∃ b' k, b.acknowledgePacket a = .ok b' ∧ b'.Aligned (base + k) (q.drop k) ∧ k ≤ q.length ∧
      (q ≠ [] → k = a.toNat + 1 - base) ∧
      b'.windowSize = b.windowSize ∧ b'.timeoutInterval = b.timeoutInterval := by
  by_cases hq : q = []
  · subst hq
    have hidle : b.packetsPending = false := by
      rw [Bool.eq_false_iff, ne_eq, h.pending_iff, List.length_nil]
      exact Nat.lt_irrefl 0
    exact ⟨b, 0, acknowledgePacket_idle hidle a, h, Nat.le_refl 0, fun hne => absurd rfl hne, rfl, rfl⟩
  · have hpos : 0 < q.length := List.length_pos_iff.mpr hq
    have hbound := h.bound
    have hbase := h.next_toNat (by omega)
    have hlen := h.holds.length_le
    have ha' := ha hq
    -- The guard never rejects the ACK: it is for a packet that was added.
    by_cases hstale : a.toNat < base
    · refine ⟨b, 0, acknowledgePacket_stale h.holds (by rwa [hbase]), h, Nat.zero_le _,
        fun _ => by omega, rfl, rfl⟩
    · obtain ⟨b', hack, hholds, hw, ht, hn, hc⟩ := acknowledgePacket_clears h.holds
        (h.pending_iff.mpr hpos) (a := a) (by omega) (by omega)
      have hk : b.slotsAcked a = a.toNat + 1 - base := by rw [slotsAcked, hbase]
      have hw' := b.windowSize.toNat_lt
      rw [hk] at hholds hc
      refine ⟨b', a.toNat + 1 - base, hack, ⟨hholds, ?_, ?_, ?_, ?_⟩, by omega, fun _ => rfl, hw, ht⟩
      · rw [hc, h.count_eq, List.length_drop]
        omega
      · rw [hn, show base + (a.toNat + 1 - base) = a.toNat + 1 by omega, UInt16.ofNat_add, UInt16.ofNat_toNat]
        rfl
      · intro i o ho
        rw [List.getElem?_drop] at ho
        rw [h.sequence _ o ho, Nat.add_assoc]
      · rw [List.length_drop]
        omega

end ArqBenchmark.Rt.CircularBuffer
