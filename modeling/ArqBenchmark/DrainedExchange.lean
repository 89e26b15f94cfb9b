import ArqBenchmark.ResequencingBuffer

namespace ArqBenchmark

section Drain

variable {R : Type} [ResequencingBuffer R]

/-- The loop of the resequencing thread that calls `getNextPacket` until it returns nothing. -/
def drainPackets : ℕ → R → Except Fault (List DataPacket × R)
  | 0, _ => .error .endlessLoop
  | fuel + 1, r =>
    match ResequencingBuffer.getNextPacket r with
    | (none, r) => .ok ([], r)
    | (some packet, r) => do
      let (packets, r) ← drainPackets fuel r
      pure (packet :: packets, r)

structure Exchange where
  accepted : Bool
  ack : Option SequenceNumber
  delivered : List DataPacket
deriving DecidableEq, Repr

def exchange (fuel : ℕ) (r : R) (packet : DataPacket) : Except Fault (Exchange × R) := do
  let (ack, r') ← ResequencingBuffer.addPacket r packet
  let (delivered, r') ← drainPackets fuel r'
  pure (⟨ResequencingBuffer.accepts r packet, ack, delivered⟩, r')

def exchanges (fuel : ℕ) : R → List DataPacket → Except Fault (List Exchange)
  | _, [] => .ok []
  | r, packet :: packets => do
    let (e, r) ← exchange fuel r packet
    let rest ← exchanges fuel r packets
    pure (e :: rest)

theorem exchanges_cons {fuel : ℕ} {r r' : R} {packet : DataPacket} {packets : List DataPacket} {e : Exchange}
    {rest : List Exchange} (he : exchange fuel r packet = .ok (e, r'))
    (hrest : exchanges fuel r' packets = .ok rest) :
    exchanges fuel r (packet :: packets) = .ok (e :: rest) := by
  simp only [exchanges, he, hrest, Loops.ok_bind]
  rfl

def Exchange.onAccept (e : Exchange) : List DataPacket × Option (Option SequenceNumber) :=
  (e.delivered, if e.accepted then some e.ack else none)

end Drain

namespace Rs

variable {next : SequenceNumber} {p : DataPacket}

theorem StopAndWait.exchange_expected (fuel : ℕ) (hp : p.header.sequenceNumber = next) :
    exchange (fuel + 2) (StopAndWait.mk next none) p = .ok (⟨true, some next, [p]⟩, ⟨next + 1, none⟩) := by
  subst hp
  have hadd : ResequencingBuffer.addPacket (StopAndWait.mk p.header.sequenceNumber none) p =
      .ok (some p.header.sequenceNumber, ⟨p.header.sequenceNumber, some p⟩) := by
    simp [ResequencingBuffer.addPacket, StopAndWait.addPacket, DataPacket.getHeader]
  have haccepts : ResequencingBuffer.accepts (StopAndWait.mk p.header.sequenceNumber none) p = true := by
    simp [ResequencingBuffer.accepts, StopAndWait.accepts, DataPacket.getHeader]
  rw [exchange, hadd, Loops.ok_bind, haccepts]
  rfl

theorem StopAndWait.exchange_unexpected (fuel : ℕ) (hp : p.header.sequenceNumber ≠ next) :
    exchange (fuel + 2) (StopAndWait.mk next none) p =
      .ok (⟨false, if p.header.sequenceNumber < next then some p.header.sequenceNumber else none, []⟩,
        ⟨next, none⟩) := by
  have hadd : ResequencingBuffer.addPacket (StopAndWait.mk next none) p =
      .ok (if p.header.sequenceNumber < next then some p.header.sequenceNumber else none, ⟨next, none⟩) := by
    simp only [ResequencingBuffer.addPacket, StopAndWait.addPacket, DataPacket.getHeader, hp,
      Option.isSome_none, Bool.false_eq_true, ↓reduceIte]
    by_cases hlt : p.header.sequenceNumber < next
    · simp only [hlt, ↓reduceIte]
    · simp only [hlt, ↓reduceIte]
  have haccepts : ResequencingBuffer.accepts (StopAndWait.mk next none) p = false := by
    simp [ResequencingBuffer.accepts, StopAndWait.accepts, DataPacket.getHeader, hp]
  rw [exchange, hadd, Loops.ok_bind, haccepts]
  rfl

theorem GoBackN.exchange_expected (fuel : ℕ) {canSendAcks : Bool} (hp : p.header.sequenceNumber = next) :
    exchange (fuel + 2) (GoBackN.mk [] next canSendAcks) p =
      .ok (⟨true, some next, [p]⟩, ⟨[], next + 1, true⟩) := by
  subst hp
  have hadd : ResequencingBuffer.addPacket (GoBackN.mk [] p.header.sequenceNumber canSendAcks) p =
      .ok (some p.header.sequenceNumber, ⟨[p], p.header.sequenceNumber + 1, true⟩) := by
    simp [ResequencingBuffer.addPacket, GoBackN.addPacket, DataPacket.getHeader, SafeQueue.push]
  have haccepts : ResequencingBuffer.accepts (GoBackN.mk [] p.header.sequenceNumber canSendAcks) p = true := by
    simp [ResequencingBuffer.accepts, GoBackN.accepts, DataPacket.getHeader]
  rw [exchange, hadd, Loops.ok_bind, haccepts]
  rfl

theorem GoBackN.exchange_unexpected (fuel : ℕ) {canSendAcks : Bool} (hp : p.header.sequenceNumber ≠ next) :
    exchange (fuel + 2) (GoBackN.mk [] next canSendAcks) p =
      .ok (⟨false, if canSendAcks then some (next - 1) else none, []⟩, ⟨[], next, canSendAcks⟩) := by
  have hadd : ResequencingBuffer.addPacket (GoBackN.mk [] next canSendAcks) p =
      .ok (if canSendAcks then some (next - 1) else none, ⟨[], next, canSendAcks⟩) := by
    simp only [ResequencingBuffer.addPacket, GoBackN.addPacket, DataPacket.getHeader, hp, ↓reduceIte]
  have haccepts : ResequencingBuffer.accepts (GoBackN.mk [] next canSendAcks) p = false := by
    simp [ResequencingBuffer.accepts, GoBackN.accepts, DataPacket.getHeader, hp]
  rw [exchange, hadd, Loops.ok_bind, haccepts]
  rfl

theorem goBackN_exchanges_eq (fuel : ℕ) (next : SequenceNumber) (canSendAcks : Bool)
    (packets : List DataPacket) :
    ∃ gs ss, exchanges (fuel + 2) (GoBackN.mk [] next canSendAcks) packets = .ok gs ∧
      exchanges (fuel + 2) (StopAndWait.mk next none) packets = .ok ss ∧
      gs.map Exchange.onAccept = ss.map Exchange.onAccept := by
  induction packets generalizing next canSendAcks with
  | nil => exact ⟨[], [], rfl, rfl, rfl⟩
  | cons p packets ih =>
    by_cases hp : p.header.sequenceNumber = next
    · obtain ⟨gs, ss, hg, hs, hsame⟩ := ih (next + 1) true
      refine ⟨_, _, exchanges_cons (GoBackN.exchange_expected fuel hp) hg,
        exchanges_cons (StopAndWait.exchange_expected fuel hp) hs, ?_⟩
      rw [List.map_cons, List.map_cons, hsame]
    · obtain ⟨gs, ss, hg, hs, hsame⟩ := ih next canSendAcks
      refine ⟨_, _, exchanges_cons (GoBackN.exchange_unexpected fuel hp) hg,
        exchanges_cons (StopAndWait.exchange_unexpected fuel hp) hs, ?_⟩
      rw [List.map_cons, List.map_cons, hsame]
      rfl

end Rs

end ArqBenchmark
