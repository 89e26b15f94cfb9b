import ArqBenchmark.PacketConstruction
import ArqBenchmark.ResequencingBuffer
import ArqBenchmark.Runs

namespace ArqBenchmark

open DataPacketHeader (packedSize)

def packetPayloadLength : UInt16 := 1000

namespace Rs

structure DummySCTP where
  shadowBuffer : SafeQueue DataPacket
  nextSequenceNumber : SequenceNumber
deriving DecidableEq, Repr

namespace DummySCTP

def new (firstSeqNum : SequenceNumber) : DummySCTP := ⟨[], firstSeqNum⟩

def trim (receivedPacket : DataPacket) (pktSpan : List Byte) : Except Fault (List Byte) :=
  if receivedPacket.isEndOfTx then subspan pktSpan 0 packedSize
  else
    -- The stream delivers as many bytes as the interface's MTU. The length in the header is not asked.
    let packetLen := packetPayloadLength.toNat + packedSize
    subspan pktSpan 0 packetLen

def addPacket (b : DummySCTP) (packet : DataPacket) :
    Except Fault (Option SequenceNumber × DummySCTP) := do
  let pktSpan := packet.getReadSpan
  if pktSpan.length < packedSize then pure (none, b)
  else
    let receivedPacket ← DataPacket.ofSpan pktSpan
    let pktSpan ← trim receivedPacket pktSpan
    let receivedSequenceNumber := (← DataPacket.ofSpan pktSpan).getHeader.sequenceNumber
    if receivedSequenceNumber ≠ b.nextSequenceNumber then pure (none, b)
    else
      let pushed ← DataPacket.ofSpan pktSpan
      pure (some receivedSequenceNumber,
        { shadowBuffer := b.shadowBuffer.push pushed
          nextSequenceNumber := b.nextSequenceNumber + 1 })

def packetsPending (b : DummySCTP) : Bool := !b.shadowBuffer.isEmpty

def getNextPacket (b : DummySCTP) : Option DataPacket × DummySCTP :=
  let (packet, shadowBuffer) := b.shadowBuffer.tryPop
  (packet, { b with shadowBuffer := shadowBuffer })

/-- The header in the stored bytes, with which every constructor and mutator leaves the packet. -/
def storedHeader (packet : DataPacket) : DataPacketHeader := .ofBytes packet.getReadSpan

def trimmedLength (packet : DataPacket) : ℕ :=
  if (storedHeader packet).length = 0 then packedSize else packetPayloadLength.toNat + packedSize

def accepts (b : DummySCTP) (packet : DataPacket) : Bool :=
  decide (packedSize ≤ packet.getReadSpan.length) &&
    (storedHeader packet).sequenceNumber == b.nextSequenceNumber

end DummySCTP

instance : ResequencingBuffer DummySCTP where
  addPacket := DummySCTP.addPacket
  packetsPending := DummySCTP.packetsPending
  getNextPacket := DummySCTP.getNextPacket
  accepts := DummySCTP.accepts

namespace DummySCTP

variable {b : DummySCTP} {p : DataPacket}

theorem subspan_zero {bytes : List Byte} {n : ℕ} (h : n ≤ bytes.length) :
    subspan bytes 0 n = .ok (bytes.take n) := by
  rw [subspan, Nat.zero_add, if_pos h, List.drop_zero]

theorem subspan_past_end {bytes : List Byte} {n : ℕ} (h : bytes.length < n) :
    subspan bytes 0 n = .error .outOfBounds := by
  rw [subspan, Nat.zero_add, if_neg (Nat.not_le.mpr h)]

theorem ofBytes_take_of_le {bytes : List Byte} {n : ℕ} (h : packedSize ≤ n) :
    DataPacketHeader.ofBytes (bytes.take n) = DataPacketHeader.ofBytes bytes := by
  rw [← DataPacket.ofBytes_take (bytes.take n), List.take_take, Nat.min_eq_left h,
    DataPacket.ofBytes_take]

theorem packedSize_le_trimmedLength (p : DataPacket) : packedSize ≤ trimmedLength p := by
  unfold trimmedLength
  split <;> omega

theorem trim_eq (p : DataPacket) : trim ⟨storedHeader p, p.getReadSpan⟩ p.getReadSpan =
    subspan p.getReadSpan 0 (trimmedLength p) := by
  simp only [trim, DataPacket.isEndOfTx, trimmedLength, beq_iff_eq, apply_ite (subspan p.getReadSpan 0)]

def trimmed (p : DataPacket) : DataPacket := ⟨storedHeader p, p.getReadSpan.take (trimmedLength p)⟩

theorem addPacket_short (h : p.getReadSpan.length < packedSize) : b.addPacket p = .ok (none, b) := by
  rw [addPacket, if_pos h]
  rfl

theorem addPacket_past_end (h : packedSize ≤ p.getReadSpan.length)
    (hend : p.getReadSpan.length < trimmedLength p) : b.addPacket p = .error .outOfBounds := by
  rw [addPacket, if_neg (Nat.not_lt.mpr h), DataPacket.ofSpan_eq h, Loops.ok_bind]
  change (trim ⟨storedHeader p, p.getReadSpan⟩ p.getReadSpan >>= _) = _
  rw [trim_eq p, subspan_past_end hend]
  rfl

theorem addPacket_trims (h : trimmedLength p ≤ p.getReadSpan.length) : b.addPacket p =
    .ok (if (storedHeader p).sequenceNumber ≠ b.nextSequenceNumber then (none, b)
      else (some (storedHeader p).sequenceNumber,
        { shadowBuffer := b.shadowBuffer ++ [trimmed p]
          nextSequenceNumber := b.nextSequenceNumber + 1 })) := by
  have hmin := packedSize_le_trimmedLength p
  have hsize : packedSize ≤ (p.getReadSpan.take (trimmedLength p)).length := by
    rw [List.length_take]
    omega
  have hread : DataPacket.ofSpan (p.getReadSpan.take (trimmedLength p)) = .ok (trimmed p) := by
    rw [DataPacket.ofSpan_eq hsize, ofBytes_take_of_le hmin]
    rfl
  rw [addPacket, if_neg (by omega), DataPacket.ofSpan_eq (Nat.le_trans hmin h), Loops.ok_bind]
  change (trim ⟨storedHeader p, p.getReadSpan⟩ p.getReadSpan >>= _) = _
  rw [trim_eq p, subspan_zero h, Loops.ok_bind, hread, Loops.ok_bind]
  change ite ((storedHeader p).sequenceNumber ≠ b.nextSequenceNumber) _ _ = _
  split
  · rfl
  · rfl

theorem addPacket_cases {ack : Option SequenceNumber} {b' : DummySCTP}
    (h : b.addPacket p = .ok (ack, b')) : b' = b ∨
      (storedHeader p).sequenceNumber = b.nextSequenceNumber ∧
        b' = ⟨b.shadowBuffer ++ [trimmed p], b.nextSequenceNumber + 1⟩ := by
  by_cases hshort : p.getReadSpan.length < packedSize
  · rw [addPacket_short hshort] at h
    cases h
    exact .inl rfl
  · by_cases hend : p.getReadSpan.length < trimmedLength p
    · rw [addPacket_past_end (Nat.not_lt.mp hshort) hend] at h
      cases h
    · rw [addPacket_trims (Nat.not_lt.mp hend)] at h
      split at h
      · cases h
        exact .inl rfl
      · rename_i hsn
        cases h
        exact .inr ⟨not_not.mp hsn, rfl⟩

structure Delivering where
  buffer : DummySCTP
  delivered : List DataPacket
deriving DecidableEq

namespace Delivering

def new (first : SequenceNumber) : Delivering := ⟨.new first, []⟩

def next (s : Delivering) : RsCall → Option Delivering
  | .addPacket packet =>
    match s.buffer.addPacket packet with
    | .ok (_, b) => some { s with buffer := b }
    | .error _ => none
  | .getNextPacket =>
    let (packet, b) := s.buffer.getNextPacket
    some ⟨b, s.delivered ++ packet.toList⟩

def stream (s : Delivering) : List DataPacket := s.delivered ++ s.buffer.shadowBuffer

def isGet : RsCall → Bool
  | .addPacket _ => false
  | .getNextPacket => true

def Whole (p : DataPacket) : Prop := packedSize + (storedHeader p).length.toNat ≤ p.getReadSpan.length

/-- The packet is added, and it is delivered with exactly its own bytes when its turn has come. -/
def Keeps (s : Delivering) (p : DataPacket) : Prop :=
  ∃ b, s.buffer.addPacket p = .ok (some (storedHeader p).sequenceNumber, b) ∧
    ∀ more t, Runs.replay next { s with buffer := b } more = some t →
      s.buffer.shadowBuffer.length < more.countP isGet →
      ∃ q, t.delivered[s.stream.length]? = some q ∧
        q.getReadSpan = p.getReadSpan.take (packedSize + (storedHeader p).length.toNat)

def InOrder (first : SequenceNumber) (packets : List DataPacket) : Prop :=
  ∀ i q, packets[i]? = some q → q.getHeader.sequenceNumber = first + UInt16.ofNat i

/-- In a call the buffer is to keep a whole packet that is the next one, and to deliver in order. -/
def Exact (first : SequenceNumber) (s : Delivering) : RsCall → Prop
  | .addPacket p => Whole p → (storedHeader p).sequenceNumber = s.buffer.nextSequenceNumber → s.Keeps p
  | .getNextPacket => ∀ t ∈ s.next .getNextPacket, InOrder first t.delivered

/-- A whole packet that is the next one ends the transmission or is as long as the launcher's packets. -/
def Fits (s : Delivering) : RsCall → Prop
  | .addPacket p => Whole p → (storedHeader p).sequenceNumber = s.buffer.nextSequenceNumber →
      (storedHeader p).length = 0 ∨ (storedHeader p).length = packetPayloadLength
  | .getNextPacket => True

def push (s : Delivering) (p : DataPacket) : Delivering :=
  ⟨⟨s.buffer.shadowBuffer ++ [trimmed p], s.buffer.nextSequenceNumber + 1⟩, s.delivered⟩

variable {s t : Delivering} {c : RsCall} {calls : List RsCall} {first : SequenceNumber}

theorem stream_push (s : Delivering) (p : DataPacket) : (s.push p).stream = s.stream ++ [trimmed p] :=
  (List.append_assoc _ _ _).symm

theorem next_addPacket (h : s.next (.addPacket p) = some t) : t = s ∨
    (storedHeader p).sequenceNumber = s.buffer.nextSequenceNumber ∧ t = s.push p := by
  rw [next] at h
  split at h
  · rename_i ack b hadd
    cases h
    rcases addPacket_cases hadd with rfl | ⟨hsn, rfl⟩
    · exact .inl rfl
    · exact .inr ⟨hsn, rfl⟩
  · cases h

theorem next_getNextPacket (s : Delivering) : ∃ t, s.next .getNextPacket = some t ∧
    t.stream = s.stream ∧ t.buffer.nextSequenceNumber = s.buffer.nextSequenceNumber ∧
      (t.delivered.length = s.delivered.length + 1 ∨
        t.delivered = s.delivered ∧ s.buffer.shadowBuffer = []) := by
  obtain ⟨⟨_ | ⟨q, queue⟩, sn⟩, delivered⟩ := s
  · refine ⟨_, rfl, ?_, rfl, .inr ⟨List.append_nil delivered, rfl⟩⟩
    exact congrArg (· ++ []) (List.append_nil delivered)
  · refine ⟨_, rfl, ?_, rfl, .inl List.length_append⟩
    exact List.append_assoc _ _ _

theorem stream_grows (h : s.next c = some t) : s.stream <+: t.stream := by
  cases c with
  | addPacket p =>
    rcases next_addPacket h with rfl | ⟨-, rfl⟩
    · exact List.prefix_refl _
    · rw [stream_push]
      exact List.prefix_append _ _
  | getNextPacket =>
    obtain ⟨u, hu, hstream, -⟩ := s.next_getNextPacket
    obtain rfl := Option.some.inj (hu.symm.trans h)
    exact hstream ▸ List.prefix_refl s.stream

theorem replay_grows (h : Runs.replay next s calls = some t) : s.stream <+: t.stream := by
  induction calls generalizing s with
  | nil =>
    cases h
    exact List.prefix_refl _
  | cons c calls ih =>
    obtain ⟨u, hu, hrest⟩ := Option.bind_eq_some_iff.mp h
    exact (stream_grows hu).trans (ih hrest)

theorem delivered_of_gets {i : ℕ} (h : Runs.replay next s calls = some t) (hi : i < s.stream.length)
    (hgets : i < s.delivered.length + calls.countP isGet) : i < t.delivered.length := by
  induction calls generalizing s with
  | nil =>
    cases h
    exact hgets
  | cons c calls ih =>
    obtain ⟨u, hu, hrest⟩ := Option.bind_eq_some_iff.mp h
    apply ih hrest (Nat.lt_of_lt_of_le hi (stream_grows hu).length_le)
    cases c with
    | addPacket p =>
      rcases next_addPacket hu with rfl | ⟨-, rfl⟩
      · exact hgets
      · exact hgets
    | getNextPacket =>
      obtain ⟨u', hu', -, -, hdelivered⟩ := s.next_getNextPacket
      obtain rfl := Option.some.inj (hu'.symm.trans hu)
      rw [List.countP_cons_of_pos rfl] at hgets
      rcases hdelivered with hone | ⟨hsame, hempty⟩
      · omega
      · rw [stream, hempty, List.append_nil] at hi
        rw [hsame]
        omega

theorem replay_gets (s : Delivering) (n : ℕ) :
    ∃ t, Runs.replay next s (List.replicate n .getNextPacket) = some t := by
  induction n generalizing s with
  | zero => exact ⟨s, rfl⟩
  | succ n ih =>
    obtain ⟨u, hu, -⟩ := s.next_getNextPacket
    obtain ⟨t, ht⟩ := ih u
    exact ⟨t, by rw [List.replicate_succ, Runs.replay, hu, Option.bind_some, ht]⟩

theorem addPacket_next (hsn : (storedHeader p).sequenceNumber = s.buffer.nextSequenceNumber)
    (h : trimmedLength p ≤ p.getReadSpan.length) :
    s.buffer.addPacket p = .ok (some (storedHeader p).sequenceNumber, (s.push p).buffer) := by
  rw [addPacket_trims h, if_neg (not_not.mpr hsn)]
  rfl

theorem delivers_trimmed {more : List RsCall} (h : Runs.replay next (s.push p) more = some t)
    (hgets : s.buffer.shadowBuffer.length < more.countP isGet) :
    t.delivered[s.stream.length]? = some (trimmed p) := by
  have hlt : s.stream.length < t.delivered.length := by
    apply delivered_of_gets h
    · rw [stream_push, List.length_append, List.length_singleton]
      exact Nat.lt_succ_self _
    · rw [stream, List.length_append]
      exact Nat.add_lt_add_left hgets _
  obtain ⟨rest, hrest⟩ := replay_grows h
  calc t.delivered[s.stream.length]?
    _ = t.stream[s.stream.length]? := (List.getElem?_append_left hlt).symm
    _ = (s.stream ++ (trimmed p :: rest))[s.stream.length]? := by
      rw [← hrest, stream_push, List.append_assoc, List.singleton_append]
    _ = some (trimmed p) := by
      rw [List.getElem?_append_right (Nat.le_refl _), Nat.sub_self]
      rfl

theorem trimmedLength_eq_iff (p : DataPacket) : trimmedLength p = packedSize + (storedHeader p).length.toNat ↔
    (storedHeader p).length = 0 ∨ (storedHeader p).length = packetPayloadLength := by
  unfold trimmedLength
  split
  · rename_i hzero
    exact iff_of_true (by rw [hzero]; rfl) (.inl hzero)
  · rename_i hpos
    rw [or_iff_right hpos, ← UInt16.toNat_inj]
    constructor
    · intro h
      omega
    · intro h
      omega

theorem keeps_iff (hwhole : Whole p) (hsn : (storedHeader p).sequenceNumber = s.buffer.nextSequenceNumber) :
    s.Keeps p ↔ (storedHeader p).length = 0 ∨ (storedHeader p).length = packetPayloadLength := by
  rw [← trimmedLength_eq_iff]
  constructor
  · rintro ⟨b, hadd, hkept⟩
    by_cases hend : p.getReadSpan.length < trimmedLength p
    · have hmin : packedSize ≤ p.getReadSpan.length := Nat.le_trans (Nat.le_add_right _ _) hwhole
      rw [addPacket_past_end hmin hend] at hadd
      cases hadd
    · rw [addPacket_next hsn (Nat.not_lt.mp hend)] at hadd
      cases hadd
      obtain ⟨t, ht⟩ := replay_gets (s.push p) (s.buffer.shadowBuffer.length + 1)
      have hgets : s.buffer.shadowBuffer.length <
          (List.replicate (s.buffer.shadowBuffer.length + 1) RsCall.getNextPacket).countP isGet := by
        rw [List.countP_replicate, if_pos (show isGet .getNextPacket = true from rfl)]
        exact Nat.lt_succ_self _
      obtain ⟨q, hq, hread⟩ := hkept _ t ht hgets
      rw [delivers_trimmed ht hgets] at hq
      cases hq
      have hlength := congrArg List.length hread
      change (p.getReadSpan.take (trimmedLength p)).length = _ at hlength
      rw [List.length_take, List.length_take] at hlength
      unfold Whole at hwhole
      omega
  · intro hfits
    have hinside : trimmedLength p ≤ p.getReadSpan.length := hfits ▸ hwhole
    refine ⟨_, addPacket_next hsn hinside, fun more t ht hgets => ?_⟩
    exact ⟨trimmed p, delivers_trimmed ht hgets, by rw [← hfits]; rfl⟩

structure Numbered (first : SequenceNumber) (s : Delivering) : Prop where
  inOrder : InOrder first s.stream
  next_eq : s.buffer.nextSequenceNumber = first + UInt16.ofNat s.stream.length

theorem new_numbered (first : SequenceNumber) : (new first).Numbered first where
  inOrder i q hq := by cases hq
  next_eq := (UInt16.add_zero first).symm

theorem Numbered.push (h : s.Numbered first)
    (hsn : (storedHeader p).sequenceNumber = s.buffer.nextSequenceNumber) : (s.push p).Numbered first := by
  constructor
  · intro i q hq
    rw [stream_push] at hq
    by_cases hi : i < s.stream.length
    · rw [List.getElem?_append_left hi] at hq
      exact h.inOrder i q hq
    · rw [List.getElem?_append_right (Nat.not_lt.mp hi), List.getElem?_singleton] at hq
      split at hq
      · rename_i hlast
        cases hq
        have hi' : i = s.stream.length := by omega
        rw [hi', ← h.next_eq, ← hsn]
        rfl
      · cases hq
  · rw [stream_push, List.length_append, List.length_singleton, UInt16.ofNat_add, ← UInt16.add_assoc,
      ← h.next_eq]
    rfl

theorem Numbered.next (h : s.Numbered first) (ht : s.next c = some t) : t.Numbered first := by
  cases c with
  | addPacket p =>
    rcases next_addPacket ht with rfl | ⟨hsn, rfl⟩
    · exact h
    · exact h.push hsn
  | getNextPacket =>
    obtain ⟨u, hu, hstream, hnext, -⟩ := s.next_getNextPacket
    obtain rfl := Option.some.inj (hu.symm.trans ht)
    exact ⟨hstream ▸ h.inOrder, by rw [hnext, hstream, h.next_eq]⟩

theorem Numbered.delivered (h : s.Numbered first) : InOrder first s.delivered := by
  intro i q hq
  have hi := (List.getElem?_eq_some_iff.mp hq).1
  exact h.inOrder i q (by rw [stream, List.getElem?_append_left hi, hq])

theorem exact_iff_fits (h : s.Numbered first) : s.Exact first c ↔ s.Fits c := by
  cases c with
  | addPacket p =>
    constructor
    · intro hexact hwhole hsn
      exact (keeps_iff hwhole hsn).mp (hexact hwhole hsn)
    · intro hfits hwhole hsn
      exact (keeps_iff hwhole hsn).mpr (hfits hwhole hsn)
  | getNextPacket => exact iff_of_true (fun t ht => (h.next ht).delivered) trivial

/-- In a run every whole packet that is the next one is delivered with exactly its own bytes, and in
order, if and only if each of them fits the trimming. -/
theorem trims_exactly_iff (first : SequenceNumber) (calls : List RsCall) :
    Runs.AlongRun next (Exact first) (new first) calls ↔ Runs.AlongRun next Fits (new first) calls := by
  refine Runs.alongRun_congr ?_ ?_ (new_numbered first) (Runs.alongRun_true (new first) calls)
  · intro s c hs _
    exact exact_iff_fits hs
  · intro s c t hs _ _ ht
    exact hs.next ht

def halfFilled : DataPacket :=
  ⟨⟨1, 0, 500⟩, (⟨1, 0, 500⟩ : DataPacketHeader).packed ++ List.replicate 1495 0⟩

theorem halfFilled_untrimmed : ¬ Runs.AlongRun next (Exact 0) (new 0) [.addPacket halfFilled] := by
  intro h
  have hheader : storedHeader halfFilled = ⟨1, 0, 500⟩ := DataPacketHeader.ofBytes_packed _ _
  have hwhole : Whole halfFilled := by
    rw [Whole, hheader, DataPacket.getReadSpan, halfFilled, List.length_append, List.length_replicate]
    decide
  have hkept := h.1 hwhole (by rw [hheader]; rfl)
  rw [keeps_iff hwhole (by rw [hheader]; rfl), hheader] at hkept
  revert hkept
  decide

end Delivering

end DummySCTP

end Rs

end ArqBenchmark
