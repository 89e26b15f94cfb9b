import ArqBenchmark.BoundedFifo
import ArqBenchmark.RetransmissionBuffer
import ArqBenchmark.RotatedRing

namespace ArqBenchmark.Rt.CircularBuffer

open RotatedRing BoundedFifo

variable {b : CircularBuffer} {q : List TransmitBufferObject} {o : TransmitBufferObject}

/-- Read from `startIdx_`, the buffer holds the packets of `q` and then free slots only. The counter
may run ahead of the packets: an ACK for packets that were never added makes it wrap round. -/
structure Holds (b : CircularBuffer) (q : List TransmitBufferObject) : Prop where
  size_pos : 0 < b.windowSize.toNat
  length_eq : b.buffer.length = b.windowSize.toNat
  start_lt : b.startIdx < b.windowSize.toNat
  view : b.buffer.rotate b.startIdx = padded b.windowSize.toNat q
  count : q.length ≤ b.packetsInBuffer
  count_lt : b.packetsInBuffer < 2 ^ 64

theorem Holds.length_le (h : b.Holds q) : q.length ≤ b.windowSize.toNat := by
  apply length_le_of_padded
  rw [← h.view, List.length_rotate, h.length_eq]

theorem Holds.slot (h : b.Holds q) {i : ℕ} (hi : i < b.windowSize.toNat) :
    readAt b.buffer ((b.startIdx + i) % b.windowSize.toNat) = .ok q[i]? := by
  apply readAt_eq
  have hring := getElem?_offset b.buffer b.startIdx (i := i) (by rwa [h.length_eq])
  rw [h.length_eq, h.view] at hring
  rw [hring, padded_getElem? q hi]

theorem Holds.write (h : b.Holds q) {i : ℕ} (hi : i < b.windowSize.toNat)
    (slot : Option TransmitBufferObject) :
    ∃ buffer, writeAt b.buffer ((b.startIdx + i) % b.windowSize.toNat) slot = .ok buffer ∧
      buffer.length = b.windowSize.toNat ∧
      buffer.rotate b.startIdx = (padded b.windowSize.toNat q).set i slot := by
  refine ⟨_, writeAt_eq (by rw [h.length_eq]; exact Nat.mod_lt _ h.size_pos) slot, ?_, ?_⟩
  · rw [List.length_set, h.length_eq]
  · rw [← h.view, ← rotate_set b.buffer b.startIdx (by rwa [h.length_eq]), h.length_eq]

theorem new_holds {windowSize : UInt16} (hw : 0 < windowSize.toNat) (timeout : ℤ)
    (first : SequenceNumber) : (new windowSize timeout first).Holds [] where
  size_pos := hw
  length_eq := by simp only [new, List.length_replicate]
  start_lt := hw
  view := by simp [new, padded]
  count := Nat.zero_le _
  count_lt := by simp [new]

def packets (b : CircularBuffer) : List TransmitBufferObject := (b.buffer.rotate b.startIdx).filterMap id

theorem Holds.packets_eq (h : b.Holds q) : b.packets = q := by
  rw [packets, h.view, padded, List.filterMap_append, List.filterMap_map, List.filterMap_replicate_of_none rfl,
    List.append_nil]
  exact List.filterMap_some

theorem Holds.walk_rule (h : b.Holds q) {σ β : Type} {body : ℕ → σ → Except Fault (σ ⊕ β)}
    {I : ℕ → σ → Prop} {Q : σ ⊕ β → Prop}
    (hbody : ∀ i < b.windowSize.toNat, ∀ s, I i s →
      (∃ s', body ((b.startIdx + i) % b.windowSize.toNat) s = .ok (.inl s') ∧ I (i + 1) s') ∨
        ∃ r, body ((b.startIdx + i) % b.windowSize.toNat) s = .ok (.inr r) ∧ Q (.inr r))
    (hend : ∀ s, I b.windowSize.toNat s → Q (.inl s)) {s : σ} (h0 : I 0 s) :
    ∃ r, b.walk body s = .ok r ∧ Q r :=
  Loops.doWhile_rule _ _ h.start_lt (fun _ => modulo_pos h.size_pos) hbody hend h0

def Appended (b : CircularBuffer) (q : List TransmitBufferObject) (o : TransmitBufferObject)
    (b' : CircularBuffer) :
    Prop :=
  ∃ buffer, q.length < b.windowSize.toNat ∧
    b' = { b with buffer := buffer, packetsInBuffer := increment b.packetsInBuffer } ∧
    buffer.length = b.windowSize.toNat ∧
    buffer.rotate b.startIdx = padded b.windowSize.toNat (q ++ [o])

theorem addSlot_taken (h : b.Holds q) (o : TransmitBufferObject) {i : ℕ} (hi : i < q.length) :
    b.addSlot o ((b.startIdx + i) % b.windowSize.toNat) () = .ok (.inl ()) := by
  rw [addSlot, h.slot (Nat.lt_of_lt_of_le hi h.length_le), List.getElem?_eq_getElem hi, Loops.ok_bind]
  rfl

theorem addSlot_free (h : b.Holds q) (o : TransmitBufferObject) (hlt : q.length < b.windowSize.toNat) :
    ∃ b', b.addSlot o ((b.startIdx + q.length) % b.windowSize.toNat) () = .ok (.inr b') ∧
      Appended b q o b' := by
  obtain ⟨buffer, hwrite, hlen, hview⟩ := h.write hlt (some o)
  refine ⟨_, ?_, buffer, hlt, rfl, hlen, ?_⟩
  · rw [addSlot, h.slot hlt, List.getElem?_eq_none (Nat.le_refl _), Loops.ok_bind]
    simp only [hwrite, Loops.ok_bind]
    rfl
  · rw [hview, padded_push hlt]

theorem addPacket_eq (h : b.Holds q) (full : String) (o : TransmitBufferObject) :
    (q.length = b.windowSize.toNat ∧ b.addPacket full o = .error (.arqProtocolException full)) ∨
      ∃ b', b.addPacket full o = .ok b' ∧ Appended b q o b' := by
  have hmax := h.length_le
  have hloop : ∃ r, b.walk (b.addSlot o) () = .ok r ∧
      Sum.elim (fun _ => q.length = b.windowSize.toNat) (Appended b q o) r := by
    -- Every slot before the one visited holds a packet.
    apply h.walk_rule (I := fun i _ => i ≤ q.length)
    · intro i hi _ hle
      rcases Nat.lt_or_eq_of_le hle with hlt | rfl
      · exact .inl ⟨(), addSlot_taken h o hlt, hlt⟩
      · obtain ⟨b', hslot, happended⟩ := addSlot_free h o hi
        exact .inr ⟨b', hslot, happended⟩
    · intro _ hle
      exact Nat.le_antisymm hmax hle
    · exact Nat.zero_le _
  obtain ⟨r, hr, hfound⟩ := hloop
  cases r with
  | inl _ =>
    refine .inl ⟨hfound, ?_⟩
    rw [addPacket, hr, Loops.ok_bind]
  | inr b' =>
    refine .inr ⟨b', ?_, hfound⟩
    rw [addPacket, hr, Loops.ok_bind]
    rfl

theorem addPacket_holds (h : b.Holds q) (hready : b.readyForNewPacket = true) (full : String)
    (o : TransmitBufferObject) :
    ∃ b', b.addPacket full o = .ok b' ∧ b'.Holds (q ++ [o]) ∧ b'.windowSize = b.windowSize ∧
      b'.timeoutInterval = b.timeoutInterval ∧ b'.nextToAck = b.nextToAck ∧
      b'.packetsInBuffer = b.packetsInBuffer + 1 := by
  have hcount : b.packetsInBuffer < b.windowSize.toNat := of_decide_eq_true hready
  have hq := h.count
  have hsize := b.windowSize.toNat_lt
  have hinc : increment b.packetsInBuffer = b.packetsInBuffer + 1 := by
    rw [increment]
    omega
  rcases addPacket_eq h full o with ⟨hfull, _⟩ | ⟨_, hadd, buffer, hlt, rfl, hlen, hview⟩
  · omega
  · refine ⟨_, hadd, ⟨h.size_pos, hlen, h.start_lt, hview, ?_, ?_⟩, rfl, rfl, rfl, hinc⟩
    · change (q ++ [o]).length ≤ increment b.packetsInBuffer
      rw [hinc, List.length_append, List.length_singleton]
      omega
    · change increment b.packetsInBuffer < 2 ^ 64
      rw [hinc]
      omega

theorem Holds.of_buffer (h : b.Holds q) {q' : List TransmitBufferObject}
    {buffer : List (Option TransmitBufferObject)} (hlen : buffer.length = b.windowSize.toNat)
    (hview : buffer.rotate b.startIdx = padded b.windowSize.toNat q') (hq : q'.length = q.length) :
    ({ b with buffer := buffer } : CircularBuffer).Holds q' :=
  ⟨h.size_pos, hlen, h.start_lt, hview, hq ▸ h.count, h.count_lt⟩

/-- The packet that `do_tryGetPacketSpan` picks, and the packets once it is stamped: every packet
that is looked at costs one reading of the clock. -/
def firstTimedOut (timeoutInterval : ℤ) (now : Clock) (q : List TransmitBufferObject) :
    Option (TransmitBufferObject × List TransmitBufferObject) :=
  touchFirst (fun k => isPacketTimedOut timeoutInterval (now k))
    (fun k o => o.updateLastTxTime (now (k + 1))) q

def NoneTimedOut (timeoutInterval : ℤ) (now : Clock) (q : List TransmitBufferObject) (i : ℕ) : Prop :=
  ∀ j < i, ∀ o, q[j]? = some o → isPacketTimedOut timeoutInterval (now j) o = false

def Stamped (b : CircularBuffer) (q : List TransmitBufferObject) (now : Clock)
    (r : Option (List Byte) × CircularBuffer) : Prop :=
  ∃ o q' buffer, firstTimedOut b.timeoutInterval now q = some (o, q') ∧
    r = (some o.packet.getReadSpan, { b with buffer := buffer }) ∧
    ({ b with buffer := buffer } : CircularBuffer).Holds q'

variable {now : Clock} {i : ℕ}

theorem NoneTimedOut.next {timeoutInterval : ℤ} (h : NoneTimedOut timeoutInterval now q i)
    (ho : ∀ o, q[i]? = some o → isPacketTimedOut timeoutInterval (now i) o = false) :
    NoneTimedOut timeoutInterval now q (i + 1) := by
  intro j hj o' ho'
  rcases Nat.lt_succ_iff_lt_or_eq.mp hj with hlt | rfl
  · exact h j hlt o' ho'
  · exact ho o' ho'

theorem trySlot_timedOut (h : b.Holds q) (hnone : NoneTimedOut b.timeoutInterval now q i) (ho : q[i]? = some o)
    (hdue : isPacketTimedOut b.timeoutInterval (now i) o = true) :
    ∃ r, b.trySlot now ((b.startIdx + i) % b.windowSize.toNat) i = .ok (.inr r) ∧ Stamped b q now r := by
  have hin : i < q.length := (List.getElem?_eq_some_iff.mp ho).1
  have hi : i < b.windowSize.toNat := Nat.lt_of_lt_of_le hin h.length_le
  obtain ⟨buffer, hwrite, hlen, hview⟩ := h.write hi (some (o.updateLastTxTime (now (i + 1))))
  rw [padded_set hin] at hview
  refine ⟨_, ?_, o, q.set i (o.updateLastTxTime (now (i + 1))), buffer, touchFirst_eq_some ho hdue hnone, rfl,
    h.of_buffer hlen hview List.length_set⟩
  rw [trySlot, h.slot hi, ho, Loops.ok_bind]
  simp only [hdue, ↓reduceIte, hwrite, Loops.ok_bind]
  rfl

theorem trySlot_recent (h : b.Holds q) (ho : q[i]? = some o)
    (hrecent : isPacketTimedOut b.timeoutInterval (now i) o = false) :
    b.trySlot now ((b.startIdx + i) % b.windowSize.toNat) i = .ok (.inl (i + 1)) := by
  have hin : i < q.length := (List.getElem?_eq_some_iff.mp ho).1
  rw [trySlot, h.slot (Nat.lt_of_lt_of_le hin h.length_le), ho, Loops.ok_bind]
  simp only [hrecent, Bool.false_eq_true, ↓reduceIte]
  rfl

theorem trySlot_free (h : b.Holds q) (hi : i < b.windowSize.toNat) (hout : q.length ≤ i) (reads : ℕ) :
    b.trySlot now ((b.startIdx + i) % b.windowSize.toNat) reads = .ok (.inl reads) := by
  rw [trySlot, h.slot hi, List.getElem?_eq_none hout, Loops.ok_bind]
  rfl

theorem trySlots_eq (h : b.Holds q) (now : Clock) :
    ∃ r, b.walk (b.trySlot now) 0 = .ok r ∧
      Sum.elim (fun _ => firstTimedOut b.timeoutInterval now q = none) (Stamped b q now) r := by
  -- A slot behind the packets costs no reading of the clock.
  apply h.walk_rule (I := fun i reads => reads = min i q.length ∧ NoneTimedOut b.timeoutInterval now q i)
  · rintro i hi reads ⟨rfl, hnone⟩
    rcases Nat.lt_or_ge i q.length with hin | hout
    · have ho : q[i]? = some q[i] := List.getElem?_eq_getElem hin
      rw [Nat.min_eq_left (Nat.le_of_lt hin)]
      cases hdue : isPacketTimedOut b.timeoutInterval (now i) q[i] with
      | true =>
        obtain ⟨r, hslot, hstamped⟩ := trySlot_timedOut h hnone ho hdue
        exact .inr ⟨r, hslot, hstamped⟩
      | false =>
        refine .inl ⟨i + 1, trySlot_recent h ho hdue, by omega, hnone.next (fun o ho' => ?_)⟩
        obtain rfl : q[i] = o := Option.some.inj (ho.symm.trans ho')
        exact hdue
    · refine .inl ⟨_, trySlot_free h hi hout _, by omega, hnone.next (fun o ho => ?_)⟩
      rw [List.getElem?_eq_none hout] at ho
      cases ho
  · rintro _ ⟨_, hnone⟩
    refine touchFirst_eq_none (fun j o ho => ?_)
    have hj := (List.getElem?_eq_some_iff.mp ho).1
    exact hnone j (Nat.lt_of_lt_of_le hj h.length_le) o ho
  · exact ⟨(Nat.zero_min _).symm, fun j hj => absurd hj (Nat.not_lt_zero j)⟩

theorem tryGetPacketSpan_eq (h : b.Holds q) (now : Clock) :
    ∃ buffer,
      b.tryGetPacketSpan now =
        .ok ((firstTimedOut b.timeoutInterval now q).map (fun r => r.1.packet.getReadSpan),
          { b with buffer := buffer }) ∧
      ({ b with buffer := buffer } : CircularBuffer).Holds
        (((firstTimedOut b.timeoutInterval now q).map Prod.snd).getD q) := by
  by_cases hp : b.packetsPending = true
  · obtain ⟨r, hr, hfound⟩ := trySlots_eq h now
    cases r with
    | inl _ =>
      have hnone : firstTimedOut b.timeoutInterval now q = none := hfound
      refine ⟨b.buffer, ?_, ?_⟩
      · rw [tryGetPacketSpan, if_pos hp, hr, Loops.ok_bind, hnone]
        rfl
      · rw [hnone]
        exact h
    | inr r =>
      obtain ⟨o, q', buffer, hsome, rfl, hq'⟩ := hfound
      refine ⟨buffer, ?_, ?_⟩
      · rw [tryGetPacketSpan, if_pos hp, hr, Loops.ok_bind, hsome]
        rfl
      · rw [hsome]
        exact hq'
  · -- Nothing is pending, so there is no packet to find.
    have hempty : q = [] := by
      have hq := h.count
      have hzero : b.packetsInBuffer = 0 := by simpa [packetsPending] using hp
      exact List.length_eq_zero_iff.mp (by omega)
    subst hempty
    exact ⟨b.buffer, by rw [tryGetPacketSpan, if_neg hp]; rfl, h⟩

def slotsAcked (b : CircularBuffer) (a : SequenceNumber) : ℕ := a.toNat + 1 - b.nextToAck.toNat

theorem acknowledgePacket_beyond {a : SequenceNumber}
    (ha : b.nextToAck.toNat + b.windowSize.toNat ≤ a.toNat) : b.acknowledgePacket a = .ok b := by
  simp only [acknowledgePacket, ha, ↓reduceIte]

theorem acknowledgePacket_idle (hp : b.packetsPending = false) (a : SequenceNumber) :
    b.acknowledgePacket a = .ok b := by
  simp only [acknowledgePacket, hp, Bool.not_false, ↓reduceIte, ite_self]

def Cleared (b : CircularBuffer) (q : List TransmitBufferObject) (a : SequenceNumber) (i : ℕ)
    (s : CircularBuffer) :
    Prop :=
  ∃ buffer,
    s = { b with
      buffer := buffer
      packetsInBuffer := (b.packetsInBuffer + (2 ^ 64 - min i (b.slotsAcked a))) % 2 ^ 64 } ∧
    buffer.length = b.windowSize.toNat ∧
    buffer.rotate b.startIdx = List.replicate (min i (b.slotsAcked a)) none ++
      (padded b.windowSize.toNat q).drop (min i (b.slotsAcked a))

variable {a : SequenceNumber} {s : CircularBuffer}

theorem Cleared.zero (h : b.Holds q) (a : SequenceNumber) : Cleared b q a 0 b := by
  refine ⟨b.buffer, ?_, h.length_eq, ?_⟩
  · have hc := Nat.mod_eq_of_lt h.count_lt
    simp only [Nat.zero_min, Nat.sub_zero, Nat.add_mod_right, hc]
  · simp only [Nat.zero_min, List.replicate_zero, List.drop_zero, List.nil_append, h.view]

theorem Cleared.acked (h : b.Holds q) (hs : Cleared b q a i s) (hi : i < b.windowSize.toNat)
    (hacked : b.nextToAck.toNat + i ≤ a.toNat) :
    ∃ s', clearSlot a i s = .ok s' ∧ Cleared b q a (i + 1) s' := by
  obtain ⟨buffer, rfl, hlen, hview⟩ := hs
  have hw := b.windowSize.toNat_lt
  have hidx : (b.startIdx + i) % b.windowSize.toNat < buffer.length := by
    rw [hlen]
    exact Nat.mod_lt _ h.size_pos
  have hlt : i < b.slotsAcked a := by
    rw [slotsAcked]
    omega
  have hdec : decrement ((b.packetsInBuffer + (2 ^ 64 - i)) % 2 ^ 64) =
      (b.packetsInBuffer + (2 ^ 64 - (i + 1))) % 2 ^ 64 := by
    rw [decrement]
    omega
  rw [Nat.min_eq_left (Nat.le_of_lt hlt)] at hview ⊢
  unfold Cleared
  rw [Nat.min_eq_left hlt]
  refine ⟨_, ?_, buffer.set ((b.startIdx + i) % b.windowSize.toNat) none, rfl, ?_, ?_⟩
  · simp only [clearSlot, modulo_pos h.size_pos, Loops.ok_bind, hacked, ↓reduceIte, writeAt_eq hidx, hdec]
    rfl
  · rw [List.length_set, hlen]
  · have hset := rotate_set buffer b.startIdx (i := i) (by rwa [hlen]) none
    rw [hlen] at hset
    rw [hset, hview, clear_next]
    rwa [padded_length h.length_le]

theorem Cleared.unacked (h : b.Holds q) (hs : Cleared b q a i s) (hacked : ¬ b.nextToAck.toNat + i ≤ a.toNat) :
    ∃ s', clearSlot a i s = .ok s' ∧ Cleared b q a (i + 1) s' := by
  obtain ⟨buffer, rfl, hlen, hview⟩ := hs
  have hge : b.slotsAcked a ≤ i := by
    rw [slotsAcked]
    omega
  rw [Nat.min_eq_right hge] at hview ⊢
  unfold Cleared
  rw [Nat.min_eq_right (Nat.le_succ_of_le hge)]
  refine ⟨_, ?_, buffer, rfl, hlen, hview⟩
  simp only [clearSlot, modulo_pos h.size_pos, Loops.ok_bind, hacked, ↓reduceIte]
  rfl

theorem clearSlots_eq (h : b.Holds q) (hin : a.toNat < b.nextToAck.toNat + b.windowSize.toNat) :
    ∃ buffer, Loops.forRange (clearSlot a) b.windowSize.toNat b =
        .ok { b with
          buffer := buffer
          packetsInBuffer := (b.packetsInBuffer + (2 ^ 64 - b.slotsAcked a)) % 2 ^ 64 } ∧
      buffer.length = b.windowSize.toNat ∧
      buffer.rotate b.startIdx = List.replicate (b.slotsAcked a) none ++
        (padded b.windowSize.toNat q).drop (b.slotsAcked a) := by
  have hmax : b.slotsAcked a ≤ b.windowSize.toNat := by
    rw [slotsAcked]
    omega
  have hloop : ∃ s, Loops.forRange (clearSlot a) b.windowSize.toNat b = .ok s ∧
      Cleared b q a b.windowSize.toNat s := by
    apply Loops.forRange_rule (I := Cleared b q a)
    · intro i hi s hs
      by_cases hacked : b.nextToAck.toNat + i ≤ a.toNat
      · exact hs.acked h hi hacked
      · exact hs.unacked h hacked
    · exact .zero h a
  obtain ⟨_, hs, buffer, rfl, hlen, hview⟩ := hloop
  rw [Nat.min_eq_right hmax] at hs hview
  exact ⟨buffer, hs, hlen, hview⟩

theorem acknowledgePacket_stale (h : b.Holds q) {a : SequenceNumber} (ha : a.toNat < b.nextToAck.toNat) :
    b.acknowledgePacket a = .ok b := by
  have hguard : ¬ b.nextToAck.toNat + b.windowSize.toNat ≤ a.toNat := by omega
  have hle : ¬ b.nextToAck ≤ a := by
    rw [UInt16.le_iff_toNat_le]
    omega
  have hskip : Loops.forRange (clearSlot a) b.windowSize.toNat b = .ok b := by
    have hloop : ∃ s, Loops.forRange (clearSlot a) b.windowSize.toNat b = .ok s ∧ b = s := by
      apply Loops.forRange_rule (I := fun _ s => b = s)
      · rintro i _ _ rfl
        have hcond : ¬ b.nextToAck.toNat + i ≤ a.toNat := by omega
        refine ⟨b, ?_, rfl⟩
        simp only [clearSlot, modulo_pos h.size_pos, Loops.ok_bind, hcond, ↓reduceIte]
        rfl
      · rfl
    obtain ⟨_, hs, rfl⟩ := hloop
    exact hs
  rw [acknowledgePacket, if_neg hguard]
  split
  · rfl
  · rw [hskip, Loops.ok_bind, advance, if_neg hle]
    rfl

/-- An ACK that the guard lets through drops the packets it covers. When it covers more slots than
the counter says are filled, the counter wraps round. -/
theorem acknowledgePacket_clears (h : b.Holds q) (hp : b.packetsPending = true) {a : SequenceNumber}
    (hle : b.nextToAck.toNat ≤ a.toNat) (hin : a.toNat < b.nextToAck.toNat + b.windowSize.toNat) :
    ∃ b', b.acknowledgePacket a = .ok b' ∧ b'.Holds (q.drop (b.slotsAcked a)) ∧
      b'.windowSize = b.windowSize ∧ b'.timeoutInterval = b.timeoutInterval ∧
      b'.nextToAck = a + 1 ∧
      b'.packetsInBuffer = (b.packetsInBuffer + (2 ^ 64 - b.slotsAcked a)) % 2 ^ 64 := by
  have hguard : ¬ b.nextToAck.toNat + b.windowSize.toNat ≤ a.toNat := by omega
  have hk : a.toNat + 1 - b.nextToAck.toNat = b.slotsAcked a := rfl
  have hmax : b.slotsAcked a ≤ b.windowSize.toNat := by omega
  have hw := b.windowSize.toNat_lt
  obtain ⟨buffer, hs, hlen, hview⟩ := clearSlots_eq h hin
  refine ⟨{ b with
    buffer := buffer
    startIdx := (b.startIdx + b.slotsAcked a) % b.windowSize.toNat
    nextToAck := a + 1
    packetsInBuffer := (b.packetsInBuffer + (2 ^ 64 - b.slotsAcked a)) % 2 ^ 64 }, ?_, ?_, rfl, rfl, rfl, rfl⟩
  · rw [acknowledgePacket, if_neg hguard, hp, hs, Loops.ok_bind, advance]
    simp only [Bool.not_true, Bool.false_eq_true, ↓reduceIte, UInt16.le_iff_toNat_le, hle, hk,
      modulo_pos h.size_pos, Loops.ok_bind]
    rfl
  · refine ⟨h.size_pos, hlen, Nat.mod_lt _ h.size_pos, ?_, ?_, Nat.mod_lt _ (by omega)⟩
    · have hrot := rotate_advance hview
      rw [List.length_replicate, hlen] at hrot
      exact hrot.trans (padded_drop hmax h.length_le)
    · have hq := h.count
      have hc := h.count_lt
      rw [List.length_drop]
      change _ ≤ (b.packetsInBuffer + (2 ^ 64 - b.slotsAcked a)) % 2 ^ 64
      omega

theorem acknowledgePacket_holds (h : b.Holds q) (a : SequenceNumber) :
    ∃ b' k, b.acknowledgePacket a = .ok b' ∧ b'.Holds (q.drop k) ∧ b'.windowSize = b.windowSize ∧
      b'.timeoutInterval = b.timeoutInterval := by
  by_cases hp : b.packetsPending = true
  · by_cases hstale : a.toNat < b.nextToAck.toNat
    · exact ⟨b, 0, acknowledgePacket_stale h hstale, h, rfl, rfl⟩
    · by_cases hbeyond : b.nextToAck.toNat + b.windowSize.toNat ≤ a.toNat
      · exact ⟨b, 0, acknowledgePacket_beyond hbeyond, h, rfl, rfl⟩
      · obtain ⟨b', hack, hb', hsize, htime, -⟩ := acknowledgePacket_clears h hp (a := a) (by omega) (by omega)
        exact ⟨b', _, hack, hb', hsize, htime⟩
  · exact ⟨b, 0, acknowledgePacket_idle (by simpa using hp) a, h, rfl, rfl⟩

end ArqBenchmark.Rt.CircularBuffer
