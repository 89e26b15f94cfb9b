import ArqBenchmark.ResequencingLaws
import ArqBenchmark.RetransmissionLaws

namespace ArqBenchmark

open ResequencingView LawfulRetransmission

/-- What gets the transmission on: the oldest packet is transmitted again once it is late enough, and an
ACK releases the packets up to its number. -/
class LiveRetransmission (B : Type) [RetransmissionBuffer B] [LawfulRetransmission B] where
  held : B → List TransmitBufferObject
  aligned_held : ∀ {b : B} {base q}, Aligned b base q → held b = q
  aligned_ready : ∀ {b : B} {base}, Aligned b base [] → 0 < capacity b →
    RetransmissionBuffer.readyForNewPacket b = true
  aligned_idle : ∀ {b : B} {base}, Aligned b base [] → ∀ now,
    RetransmissionBuffer.tryGetPacketSpan b now = .ok (none, b)
  aligned_overdue : ∀ {b : B} {base o q}, Aligned b base (o :: q) → ∀ T, ∃ T' b', T ≤ T' ∧
    RetransmissionBuffer.tryGetPacketSpan b (fun _ => T') = .ok (some o.packet.getReadSpan, b')
  aligned_beyond : ∀ {b : B} {base q a}, Aligned b base q → base + capacity b ≤ a.toNat →
    RetransmissionBuffer.acknowledgePacket b a = .ok b
  aligned_acked : ∀ {b : B} {base q a}, Aligned b base q → a.toNat < base + q.length →
    ∃ b' k, RetransmissionBuffer.acknowledgePacket b a = .ok b' ∧ Aligned b' (base + k) (q.drop k) ∧
      k ≤ q.length ∧ base + k = max base (a.toNat + 1) ∧ capacity b' = capacity b

/-- The packet that the receiver expects, and every older one, is answered. Only the `debt` of the buffer may
become less instead of the ACK being for a packet that is new to the transmitter. -/
class LiveResequencing (R : Type) [ResequencingBuffer R] [ResequencingView R] where
  Answers : R → Prop
  debt : R → ℕ
  answers_addPacket : ∀ {r r' : R} {p ack}, Holds r → Answers r →
    ResequencingBuffer.addPacket r p = .ok (ack, r') → Answers r'
  answers_getNextPacket : ∀ {r : R}, Answers r → Answers (ResequencingBuffer.getNextPacket r).2
  debt_getNextPacket : ∀ r : R, debt (ResequencingBuffer.getNextPacket r).2 = debt r
  addPacket_old : ∀ {r r' : R} {p ack}, Holds r → Answers r → pending r = [] →
    p.header.sequenceNumber.toNat < frontier r → ResequencingBuffer.addPacket r p = .ok (ack, r') →
    ∃ a, ack = some a ∧ p.header.sequenceNumber.toNat ≤ a.toNat ∧ a.toNat < 65535
  addPacket_expected : ∀ {r r' : R} {p ack}, Holds r → Answers r → pending r = [] →
    p.header.sequenceNumber.toNat = frontier r →
    (∀ x, x = p ∨ x ∈ window r → x.header.sequenceNumber.toNat < 65535) →
    ResequencingBuffer.addPacket r p = .ok (ack, r') →
    ∃ a, ack = some a ∧
      (p.header.sequenceNumber.toNat ≤ a.toNat ∧ a.toNat < 65535 ∨ debt r' < debt r)

namespace Rt

theorem exists_timedOut (timeoutInterval : ℤ) (o : TransmitBufferObject) (T : Time) :
    ∃ T', T ≤ T' ∧ isPacketTimedOut timeoutInterval T' o = true := by
  refine ⟨max T (o.info.lastTxTime + (max timeoutInterval 0 + 1) * 1000), le_max_left _ _, ?_⟩
  have hlate := le_max_right T (o.info.lastTxTime + (max timeoutInterval 0 + 1) * 1000)
  have htimeout := le_max_left timeoutInterval 0
  have hzero := le_max_right timeoutInterval 0
  rw [isPacketTimedOut, decide_eq_true_eq, Int.tdiv_eq_ediv_of_nonneg (by omega)]
  omega

section Windows

open OverCircularBuffer CircularBuffer

variable {B : Type} [RetransmissionBuffer B] [OverCircularBuffer B] {b : B} {q : List TransmitBufferObject}
  {base : ℕ} {a : SequenceNumber}

theorem aligned_idle (h : (window b).Aligned base []) (now : Clock) :
    RetransmissionBuffer.tryGetPacketSpan b now = .ok (none, b) := by
  have hidle : (window b).packetsPending = false := by
    rw [Bool.eq_false_iff, ne_eq, h.pending_iff, List.length_nil]
    exact Nat.lt_irrefl 0
  rw [tryGetPacketSpan_window, CircularBuffer.tryGetPacketSpan, hidle]
  change Except.ok (none, ofWindow (window b)) = _
  rw [ofWindow_window]

theorem aligned_overdue {o : TransmitBufferObject} (h : (window b).Aligned base (o :: q)) (T : Time) :
    ∃ T', ∃ b' : B, T ≤ T' ∧
      RetransmissionBuffer.tryGetPacketSpan b (fun _ => T') = .ok (some o.packet.getReadSpan, b') := by
  obtain ⟨T', hle, hdue⟩ := exists_timedOut (window b).timeoutInterval o T
  obtain ⟨w, htry, -⟩ := h.tryGetPacketSpan (fun _ => T')
  refine ⟨T', ofWindow w, hle, ?_⟩
  have hfirst : firstTimedOut (window b).timeoutInterval (fun _ => T') (o :: q) =
      some (o, (o :: q).set 0 (o.updateLastTxTime T')) :=
    BoundedFifo.touchFirst_eq_some (k := 0) rfl hdue (fun j hj => absurd hj (Nat.not_lt_zero j))
  rw [hfirst] at htry
  rw [tryGetPacketSpan_window, htry]
  rfl

theorem aligned_beyond (h : (window b).Aligned base q) (ha : base + (window b).windowSize.toNat ≤ a.toNat) :
    RetransmissionBuffer.acknowledgePacket b a = .ok b := by
  have hmax := a.toNat_lt
  have hbeyond : (window b).nextToAck.toNat + (window b).windowSize.toNat ≤ a.toNat := by
    rw [h.next_toNat (by omega)]
    exact ha
  rw [acknowledgePacket_window, acknowledgePacket_beyond hbeyond, Loops.map_ok, ofWindow_window]

theorem aligned_acked (h : (window b).Aligned base q) (ha : a.toNat < base + q.length) :
    ∃ b' : B, ∃ k, RetransmissionBuffer.acknowledgePacket b a = .ok b' ∧
      (window b').Aligned (base + k) (q.drop k) ∧ k ≤ q.length ∧ base + k = max base (a.toNat + 1) ∧
      (window b').windowSize.toNat = (window b).windowSize.toNat := by
  obtain ⟨w, k, hack, hw, hk, hkeq, hsize, -⟩ := h.acknowledgePacket (fun _ => ha)
  refine ⟨ofWindow w, k, by rw [acknowledgePacket_window, hack, Loops.map_ok], by rwa [window_ofWindow], hk, ?_,
    by rw [window_ofWindow, hsize]⟩
  by_cases hq : q = []
  · subst hq
    rw [List.length_nil] at hk ha
    omega
  · have := hkeq hq
    omega

instance : LiveRetransmission B where
  held b := (window b).packets
  aligned_held h := h.holds.packets_eq
  aligned_ready h hpos := by
    rw [readyForNewPacket_window]
    exact h.ready_iff.mpr hpos
  aligned_idle h now := aligned_idle h now
  aligned_overdue h T := aligned_overdue h T
  aligned_beyond h ha := aligned_beyond h ha
  aligned_acked h ha := aligned_acked h ha

end Windows

namespace StopAndWait

variable {b : StopAndWait} {q : List TransmitBufferObject} {base : ℕ} {a : SequenceNumber}

theorem KeepsFrom.overdue {o : TransmitBufferObject} (h : b.KeepsFrom base (o :: q)) (T : Time) :
    ∃ T' b', T ≤ T' ∧ b.tryGetPacketSpan (fun _ => T') = (some o.packet.getReadSpan, b') := by
  obtain ⟨timeout, _ | p⟩ := b
  · cases h.keeps
  · obtain ⟨rfl, rfl⟩ := List.cons.inj h.keeps
    obtain ⟨T', hle, hdue⟩ := exists_timedOut timeout p T
    exact ⟨T', ⟨timeout, some (p.updateLastTxTime T')⟩, hle,
      by simp only [StopAndWait.tryGetPacketSpan, hdue, ↓reduceIte]⟩

theorem KeepsFrom.acknowledgePacket_ne (h : b.KeepsFrom base q)
    (ha : ∀ o ∈ q, a ≠ o.info.sequenceNumber) : b.acknowledgePacket a = b := by
  obtain ⟨timeout, _ | p⟩ := b
  · rfl
  · obtain rfl : [p] = q := h.keeps
    simp only [StopAndWait.acknowledgePacket, ha p (List.mem_singleton_self p), ↓reduceIte]

theorem KeepsFrom.number (h : b.KeepsFrom base q) {o : TransmitBufferObject} (ho : o ∈ q) :
    q.length = 1 ∧ o.info.sequenceNumber.toNat = base := by
  have hlen := h.keeps.length_le
  have hbound := h.bound
  obtain ⟨i, hi⟩ := List.getElem?_of_mem ho
  have hlt : i < q.length := (List.getElem?_eq_some_iff.mp hi).1
  obtain rfl : i = 0 := by omega
  refine ⟨by omega, ?_⟩
  rw [h.sequence 0 o hi, toNat_ofNat_of_lt (by omega), Nat.add_zero]

theorem KeepsFrom.acked (h : b.KeepsFrom base q) (ha : a.toNat < base + q.length) :
    ∃ k, (b.acknowledgePacket a).KeepsFrom (base + k) (q.drop k) ∧ k ≤ q.length ∧
      base + k = max base (a.toNat + 1) := by
  by_cases hne : ∀ o ∈ q, a ≠ o.info.sequenceNumber
  · rw [h.acknowledgePacket_ne hne]
    refine ⟨0, h, Nat.zero_le _, ?_⟩
    cases hq : q with
    | nil =>
      rw [hq, List.length_nil] at ha
      omega
    | cons o rest =>
      have ho : o ∈ q := hq ▸ List.mem_cons_self
      obtain ⟨hlen, hnumber⟩ := h.number ho
      have hdiff : a.toNat ≠ base := fun heq => hne o ho (UInt16.toNat_inj.mp (heq.trans hnumber.symm))
      omega
  · have hmatch : ∃ o ∈ q, a = o.info.sequenceNumber := by
      simpa only [not_forall, not_not, exists_prop] using hne
    obtain ⟨o, ho, rfl⟩ := hmatch
    obtain ⟨hlen, hnumber⟩ := h.number ho
    obtain ⟨k, hk, hle, -⟩ := h.acknowledgePacket o.info.sequenceNumber
    obtain ⟨timeout, _ | p⟩ := b
    · obtain rfl : [] = q := h.keeps
      cases ho
    · obtain rfl : [p] = q := h.keeps
      obtain rfl := List.mem_singleton.mp ho
      refine ⟨1, ?_, Nat.le_refl 1, by omega⟩
      simp only [StopAndWait.acknowledgePacket, ↓reduceIte]
      exact ⟨rfl, h.bound, fun i o' ho' => by cases ho'⟩

instance : LiveRetransmission StopAndWait where
  held b := b.retransmitPacket.toList
  aligned_held h := h.keeps
  aligned_ready := by
    rintro ⟨timeout, _ | p⟩ base h -
    · rfl
    · cases h.keeps
  aligned_idle := by
    rintro ⟨timeout, _ | p⟩ base h now
    · rfl
    · cases h.keeps
  aligned_overdue h T := by
    obtain ⟨T', b', hle, htry⟩ := h.overdue T
    exact ⟨T', b', hle, congrArg Except.ok htry⟩
  aligned_beyond h ha := by
    refine congrArg Except.ok (h.acknowledgePacket_ne (fun o ho heq => ?_))
    obtain ⟨-, hnumber⟩ := h.number ho
    have hbeyond : _ + 1 ≤ _ := ha
    rw [heq] at hbeyond
    omega
  aligned_acked h ha := by
    obtain ⟨k, hk, hle, hmax⟩ := h.acked ha
    exact ⟨_, k, rfl, hk, hle, hmax, rfl⟩

end StopAndWait

end Rt

namespace Rs

namespace StopAndWait

theorem addPacket_below {b : StopAndWait} {p : DataPacket} (hempty : b.packetForDelivery = none)
    (hlt : p.header.sequenceNumber < b.expectedPacketSeqNum) :
    b.addPacket p = (some p.header.sequenceNumber, b) := by
  have hne : p.header.sequenceNumber ≠ b.expectedPacketSeqNum := UInt16.ne_of_lt hlt
  simp [addPacket, DataPacket.getHeader, hempty, hne, hlt]

theorem addPacket_next {b : StopAndWait} {p : DataPacket} (hempty : b.packetForDelivery = none)
    (heq : p.header.sequenceNumber = b.expectedPacketSeqNum) :
    b.addPacket p = (some p.header.sequenceNumber, { b with packetForDelivery := some p }) := by
  simp [addPacket, DataPacket.getHeader, hempty, heq]

theorem frontier_of_empty {b : StopAndWait} (hempty : b.packetForDelivery = none) :
    ResequencingView.frontier b = b.expectedPacketSeqNum.toNat := by
  simp [ResequencingView.frontier, hempty]

end StopAndWait

open StopAndWait in
instance : LiveResequencing StopAndWait where
  Answers _ := True
  debt _ := 0
  answers_addPacket _ _ _ := trivial
  answers_getNextPacket _ := trivial
  debt_getNextPacket _ := rfl
  addPacket_old := by
    intro b b' p ack _ _ hempty hlt hadd
    have hnone : b.packetForDelivery = none := Option.toList_eq_nil_iff.mp hempty
    rw [frontier_of_empty hnone] at hlt
    obtain ⟨rfl, rfl⟩ := Prod.mk.inj (Except.ok.inj ((congrArg Except.ok (addPacket_below hnone hlt)).symm.trans hadd))
    have hmax := b.expectedPacketSeqNum.toNat_lt
    exact ⟨_, rfl, Nat.le_refl _, by omega⟩
  addPacket_expected := by
    intro b b' p ack _ _ hempty heq hbound hadd
    have hnone : b.packetForDelivery = none := Option.toList_eq_nil_iff.mp hempty
    rw [frontier_of_empty hnone] at heq
    have hnext := addPacket_next hnone (UInt16.toNat_inj.mp heq)
    obtain ⟨rfl, rfl⟩ := Prod.mk.inj (Except.ok.inj ((congrArg Except.ok hnext).symm.trans hadd))
    exact ⟨_, rfl, .inl ⟨Nat.le_refl _, hbound p (.inl rfl)⟩⟩

theorem le_pred {sn next : SequenceNumber} (h : sn.toNat < next.toNat) :
    sn.toNat ≤ (next - 1).toNat ∧ (next - 1).toNat < 65535 := by
  have hone : (1 : UInt16).toNat = 1 := rfl
  have hlt := next.toNat_lt
  rw [UInt16.toNat_sub, hone]
  omega

instance : LiveResequencing GoBackN where
  Answers b := 0 < b.nextSequenceNumber.toNat → b.canSendAcks = true
  debt _ := 0
  answers_addPacket := by
    intro r r' p ack _ hanswers hadd
    by_cases heq : p.header.sequenceNumber = r.nextSequenceNumber
    · simp only [ResequencingBuffer.addPacket, GoBackN.addPacket, DataPacket.getHeader, heq, ↓reduceIte] at hadd
      cases hadd
      exact fun _ => rfl
    · simp only [ResequencingBuffer.addPacket, GoBackN.addPacket, DataPacket.getHeader, heq, ↓reduceIte] at hadd
      cases hadd
      exact hanswers
  answers_getNextPacket h := h
  debt_getNextPacket _ := rfl
  addPacket_old := by
    intro r r' p ack _ hanswers _ hlt hadd
    have hlt' : p.header.sequenceNumber.toNat < r.nextSequenceNumber.toNat := hlt
    have hne : p.header.sequenceNumber ≠ r.nextSequenceNumber := by
      intro heq
      rw [heq] at hlt'
      exact Nat.lt_irrefl _ hlt'
    have hcan : r.canSendAcks = true := hanswers (Nat.lt_of_le_of_lt (Nat.zero_le _) hlt')
    simp only [ResequencingBuffer.addPacket, GoBackN.addPacket, DataPacket.getHeader, hne, hcan,
      ↓reduceIte] at hadd
    cases hadd
    exact ⟨_, rfl, le_pred hlt'⟩
  addPacket_expected := by
    intro r r' p ack _ _ _ heq hbound hadd
    have heq' : p.header.sequenceNumber = r.nextSequenceNumber := UInt16.toNat_inj.mp heq
    simp only [ResequencingBuffer.addPacket, GoBackN.addPacket, DataPacket.getHeader, heq', ↓reduceIte] at hadd
    cases hadd
    exact ⟨_, rfl, .inl ⟨Nat.le_of_eq (congrArg UInt16.toNat heq'), heq' ▸ hbound p (.inl rfl)⟩⟩

namespace SelectiveRepeat

variable {b b' : SelectiveRepeat} {w w' : List (Option DataPacket)} {p : DataPacket} {run : List DataPacket}
  {ack : Option SequenceNumber}

theorem Settled.completed (h : b.Settled w) (hc : b.Completes p) (hadd : b.addPacket p = .ok (ack, b')) :
    b'.packetsInBuffer = 0 := by
  have hpos : 0 < b.windowSize.toNat := by
    have := hc.2
    omega
  have hin : b.outsideWindow p.header.sequenceNumber ≠ true := by
    rw [hc.1, ne_eq, outsideWindow_iff]
    omega
  obtain ⟨k, slot, hk, hslot, hread⟩ := h.inside hin
  have hzero : k = 0 := by
    rw [hc.1] at hk
    omega
  cases slot with
  | some x => exact absurd (hzero ▸ hslot) (h.first_missing x)
  | none =>
    obtain ⟨buffer, hwrite, hholds⟩ := h.insert hk hslot
    obtain ⟨run, rest, hsplit, hrest⟩ := RotatedRing.exists_filled_front (w.set k (some p))
    obtain rfl := (h.split hk hslot hsplit hrest).2.mpr hc
    rw [hsplit, List.append_nil] at hholds
    obtain ⟨b'', hupdate, -, -, -, -, hempty⟩ := updateBuffer_full hholds hpos
    have hdone := addPacket_free (Bool.eq_false_iff.mpr hin) hread hwrite hupdate
    obtain ⟨-, rfl⟩ := Prod.mk.inj (Except.ok.inj (hdone.symm.trans hadd))
    rw [hempty.count, List.countP_replicate]
    rfl

theorem Added.answers (h : Added b w p run b' w') (hsize : 1 < b.windowSize.toNat)
    (hcan : 0 < b.earliestExpected.toNat → b.canSendAcks = true) :
    0 < b'.earliestExpected.toNat → b'.canSendAcks = true := by
  intro hpos
  rw [h.sends, Bool.or_eq_true]
  by_cases hrun : run = []
  · by_cases hc : b.Completes p
    · exact .inl (hcan ((h.stuck hc).1 ▸ hpos))
    · have hmoved := h.moved hc
      rw [hrun, List.length_nil, show UInt16.ofNat 0 = 0 from rfl, UInt16.add_zero] at hmoved
      exact .inl (hcan (hmoved ▸ hpos))
  · have hfirst := (h.pushes (by omega)).mp hrun
    right
    rw [hfirst, Bool.not_eq_true', Bool.eq_false_iff, ne_eq, outsideWindow_iff]
    omega

theorem Added.advances (hb : b.Settled w) (h : Added b w p run b' w') (hc : ¬ b.Completes p)
    (hsize : 0 < b.windowSize.toNat) (hp : p.header.sequenceNumber = b.earliestExpected)
    (hbound : ∀ x, x = p ∨ x ∈ ResequencingView.window b → x.header.sequenceNumber.toNat < 65535) :
    b.earliestExpected.toNat < b'.earliestExpected.toNat := by
  have hrun := (h.pushes hsize).mpr hp
  have hpos : 0 < run.length := List.length_pos_iff.mpr hrun
  obtain ⟨last, hlast⟩ : ∃ x, run[run.length - 1]? = some x :=
    ⟨_, List.getElem?_eq_getElem (by omega)⟩
  have hnumber := h.sequence _ _ hlast
  have hlt := hbound last ((h.kept last (.inl (List.mem_of_getElem? hlast))).imp And.left hb.mem_window.mpr)
  rw [h.moved hc, UInt16.toNat_add, UInt16.toNat_ofNat']
  omega

end SelectiveRepeat

open SelectiveRepeat in
instance : LiveResequencing SelectiveRepeat where
  Answers b := 1 < b.windowSize.toNat ∧ (0 < b.earliestExpected.toNat → b.canSendAcks = true)
  debt b := b.packetsInBuffer
  answers_addPacket := by
    rintro b b' p ack ⟨w, hw⟩ ⟨hsize, hcan⟩ hadd
    obtain ⟨run, b₁, w', hadd', h⟩ := hw.addPacket p
    obtain ⟨rfl, rfl⟩ := Prod.mk.inj (Except.ok.inj (hadd'.symm.trans hadd))
    exact ⟨h.size ▸ hsize, h.answers hsize hcan⟩
  answers_getNextPacket h := h
  debt_getNextPacket _ := rfl
  addPacket_old := by
    rintro b b' p ack - ⟨hsize, hcan⟩ - hlt hadd
    have hlt' : p.header.sequenceNumber.toNat < b.earliestExpected.toNat := hlt
    have hout : b.outsideWindow p.header.sequenceNumber = true := outsideWindow_iff.mpr (.inl hlt')
    obtain ⟨rfl, rfl⟩ := Prod.mk.inj (Except.ok.inj ((addPacket_outside hout).symm.trans hadd))
    exact ⟨_, if_pos (hcan (Nat.lt_of_le_of_lt (Nat.zero_le _) hlt')), le_pred hlt'⟩
  addPacket_expected := by
    rintro b b' p ack ⟨w, hw⟩ ⟨hsize, hcan⟩ - heq hbound hadd
    have heq' : p.header.sequenceNumber = b.earliestExpected := UInt16.toNat_inj.mp heq
    obtain ⟨run, b₁, w', hadd', h⟩ := hw.addPacket p
    obtain ⟨rfl, rfl⟩ := Prod.mk.inj (Except.ok.inj (hadd'.symm.trans hadd))
    have hin : b.outsideWindow p.header.sequenceNumber = false := by
      rw [heq', Bool.eq_false_iff, ne_eq, outsideWindow_iff]
      omega
    have hsends : b₁.canSendAcks = true := by
      rw [h.sends, hin]
      exact Bool.or_true _
    refine ⟨_, if_pos hsends, ?_⟩
    by_cases hc : b.Completes p
    · right
      have hfull := hc.2
      change b₁.packetsInBuffer < b.packetsInBuffer
      rw [hw.completed hc hadd]
      omega
    · exact .inl (le_pred (heq' ▸ h.advances hw hc (by omega) heq' hbound))

end Rs

end ArqBenchmark
