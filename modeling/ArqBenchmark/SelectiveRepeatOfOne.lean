import ArqBenchmark.SelectiveRepeatOrder

namespace ArqBenchmark.Rs

inductive RsResult
  | ack (value : Option SequenceNumber)
  | packet (value : Option DataPacket)
  | thrown (fault : Fault)
deriving DecidableEq

section Answers

variable {R : Type} [ResequencingBuffer R]

def rsCall (r : R) : RsCall → (RsResult × Bool) × R
  | .addPacket packet =>
    match ResequencingBuffer.addPacket r packet with
    | .ok (ack, r') => ((.ack ack, ResequencingBuffer.packetsPending r'), r')
    | .error fault => ((.thrown fault, ResequencingBuffer.packetsPending r), r)
  | .getNextPacket =>
    let (packet, r') := ResequencingBuffer.getNextPacket r
    ((.packet packet, ResequencingBuffer.packetsPending r'), r')

def answers (r : R) (calls : List RsCall) : Bool × List (RsResult × Bool) :=
  (ResequencingBuffer.packetsPending r, Runs.observe rsCall r calls)

end Answers

variable {first : SequenceNumber} {p : DataPacket}

theorem SelectiveRepeat.new_addPacket_outside (hp : p.header.sequenceNumber ≠ first) :
    (SelectiveRepeat.new 1 first).addPacket p = .ok (none, SelectiveRepeat.new 1 first) := by
  have hone : (1 : UInt16).toNat = 1 := rfl
  have hne : p.header.sequenceNumber.toNat ≠ first.toNat := fun h => hp (UInt16.toNat_inj.mp h)
  apply addPacket_outside
  rw [outsideWindow_iff]
  change p.header.sequenceNumber.toNat < first.toNat ∨
    first.toNat + (1 : UInt16).toNat ≤ p.header.sequenceNumber.toNat
  omega

theorem SelectiveRepeat.new_addPacket_first (hp : p.header.sequenceNumber = first) :
    ∃ b, (SelectiveRepeat.new 1 first).addPacket p = .ok (some (first - 1), b) := by
  obtain ⟨run, b, w, hadd, hb⟩ := (new_settled 1 first).addPacket p
  have hinside : (SelectiveRepeat.new 1 first).outsideWindow p.header.sequenceNumber = false := by
    rw [Bool.eq_false_iff, ne_eq, outsideWindow_iff, hp]
    change ¬ (first.toNat < first.toNat ∨ first.toNat + (1 : UInt16).toNat ≤ first.toNat)
    have hone : (1 : UInt16).toNat = 1 := rfl
    omega
  -- The packet completes the window of one, so `earliestExpected_` stays at `first`.
  have hack : b.ack = some (first - 1) := by
    rw [SelectiveRepeat.ack, hb.sends, hinside, (hb.stuck ⟨hp, rfl⟩).1]
    rfl
  exact ⟨b, hack ▸ hadd⟩

theorem GoBackN.new_addPacket_unexpected (hp : p.header.sequenceNumber ≠ first) :
    (GoBackN.new first).addPacket p = (none, GoBackN.new first) := by
  simp [GoBackN.addPacket, GoBackN.new, DataPacket.getHeader, hp]

theorem GoBackN.new_addPacket_first (hp : p.header.sequenceNumber = first) :
    ((GoBackN.new first).addPacket p).1 = some first := by
  simp [GoBackN.addPacket, GoBackN.new, DataPacket.getHeader, hp]

theorem observe_same {c : RsCall} (hc : ∀ p, c = .addPacket p → p.header.sequenceNumber ≠ first)
    (calls : List RsCall) :
    Runs.observe rsCall (SelectiveRepeat.new 1 first) (c :: calls) =
        Runs.observe rsCall (GoBackN.new first) (c :: calls) ↔
      Runs.observe rsCall (SelectiveRepeat.new 1 first) calls =
        Runs.observe rsCall (GoBackN.new first) calls := by
  have same : ∃ answer, rsCall (SelectiveRepeat.new 1 first) c = (answer, SelectiveRepeat.new 1 first) ∧
      rsCall (GoBackN.new first) c = (answer, GoBackN.new first) := by
    cases c with
    | getNextPacket => exact ⟨_, rfl, rfl⟩
    | addPacket p =>
      have hp := hc p rfl
      refine ⟨(.ack none, false), ?_, ?_⟩
      · simp only [rsCall, ResequencingBuffer.addPacket, SelectiveRepeat.new_addPacket_outside hp]
        rfl
      · simp only [rsCall, ResequencingBuffer.addPacket, GoBackN.new_addPacket_unexpected hp]
        rfl
  obtain ⟨answer, hsr, hgbn⟩ := same
  rw [Runs.observe, Runs.observe, hsr, hgbn, List.cons.injEq, and_iff_right rfl]

theorem observe_first_ne (hp : p.header.sequenceNumber = first) (calls : List RsCall) :
    Runs.observe rsCall (SelectiveRepeat.new 1 first) (.addPacket p :: calls) ≠
      Runs.observe rsCall (GoBackN.new first) (.addPacket p :: calls) := by
  intro heq
  obtain ⟨b, hadd⟩ := SelectiveRepeat.new_addPacket_first hp
  have hsr : (rsCall (SelectiveRepeat.new 1 first) (.addPacket p)).1.1 = .ack (some (first - 1)) := by
    simp only [rsCall, ResequencingBuffer.addPacket, hadd]
  have hgbn : (rsCall (GoBackN.new first) (.addPacket p)).1.1 = .ack (some first) := by
    simp only [rsCall, ResequencingBuffer.addPacket, GoBackN.new_addPacket_first hp]
  have hsame := congrArg Prod.fst (List.cons.inj heq).1
  rw [hsr, hgbn] at hsame
  have hnumber : (first - 1).toNat = first.toNat :=
    congrArg UInt16.toNat (Option.some.inj (RsResult.ack.inj hsame))
  have hone : (1 : UInt16).toNat = 1 := rfl
  have hlt := first.toNat_lt
  rw [UInt16.toNat_sub, hone] at hnumber
  omega

/-- With a window of one packet Selective Repeat answers as Go-Back-N does exactly until the first packet
arrives. -/
theorem selective_repeat_of_one_iff (first : SequenceNumber) (calls : List RsCall) :
    answers (SelectiveRepeat.new 1 first) calls = answers (GoBackN.new first) calls ↔
      ∀ p, RsCall.addPacket p ∈ calls → p.header.sequenceNumber ≠ first := by
  have hpending : ResequencingBuffer.packetsPending (SelectiveRepeat.new 1 first) =
      ResequencingBuffer.packetsPending (GoBackN.new first) := rfl
  simp only [answers, Prod.mk.injEq, hpending, true_and]
  induction calls with
  | nil => simp [Runs.observe]
  | cons c calls ih =>
    by_cases hc : ∀ p, c = .addPacket p → p.header.sequenceNumber ≠ first
    · refine (observe_same hc calls).trans (ih.trans ?_)
      simp only [List.mem_cons]
      constructor
      · rintro h p (rfl | hp)
        · exact hc p rfl
        · exact h p hp
      · exact fun h p hp => h p (.inr hp)
    · push Not at hc
      obtain ⟨p, rfl, hp⟩ := hc
      apply iff_of_false
      · exact observe_first_ne hp calls
      · exact fun h => h p List.mem_cons_self hp

/-- The packet with SN 0 is the first one: it is acknowledged with 65535 instead of 0. -/
theorem selective_repeat_of_one_differs :
    answers (SelectiveRepeat.new 1 0) [.addPacket (Recorded.samplePacket 0)] ≠
      answers (GoBackN.new 0) [.addPacket (Recorded.samplePacket 0)] := by
  decide

end ArqBenchmark.Rs
