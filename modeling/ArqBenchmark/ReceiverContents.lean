import ArqBenchmark.NumberedPackets
import ArqBenchmark.Receiver
import ArqBenchmark.ResequencingLaws

namespace ArqBenchmark

open ResequencingView DataPacket

variable {R : Type} [ResequencingView R]

structure RxCarried (sent : List DataPacket) (r : Receiver R) : Prop where
  received : ∀ p, r.resequencingThread = .received p ∨ r.resequencingThread = .adding p → Received sent p
  end_number : ∀ sn ∈ r.endOfTxSn, EndNumber sent sn
  works : Works r.resequencingBuffer
  running : ∀ fault, r.resequencingThread ≠ .terminated fault

variable {sent : List DataPacket} {r r' : Receiver R}

theorem RxCarried.mono (h : RxCarried sent r) (more : List DataPacket) : RxCarried (sent ++ more) r where
  received p hp := (h.received p hp).mono
  end_number sn hsn := (h.end_number sn hsn).mono
  works := h.works
  running := h.running

theorem RxCarried.resequences [ResequencingBuffer R] [LawfulResequencing R] (h : RxCarried sent r)
    (hnumber : ∀ i p, sent[i]? = some p → p.header.sequenceNumber = UInt16.ofNat i) {now : Clock}
    {accepted delivered : Option DataPacket} (hr : r.Resequences now r' accepted delivered) :
    RxCarried sent r' := by
  cases hr with
  | loop =>
    refine ⟨fun p hp => ?_, h.end_number, h.works, fun fault hp => ?_⟩
    · cases hacked : r.ackedEndOfTx <;> simp [hacked] at hp
    · cases hacked : r.ackedEndOfTx <;> simp [hacked] at hp
  | @received p hpoint =>
    have hp := h.received p (.inl hpoint)
    refine ⟨fun p' hp' => ?_, fun sn hsn => ?_, h.works, by simp⟩
    · obtain rfl : p = p' := by simpa using hp'
      exact hp
    · by_cases hend : p.isEndOfTx = true
      · rw [if_pos hend] at hsn
        obtain ⟨q, hq, hcopy⟩ := hp
        obtain ⟨i, hi⟩ := List.getElem?_of_mem hq
        refine ⟨i, q, hi, ?_, ?_⟩
        · rw [← hend, DataPacket.isEndOfTx, DataPacket.isEndOfTx, hcopy.header_eq]
        · rw [← hnumber i q hi, ← hcopy.header_eq]
          exact (Option.some.inj hsn).symm
      · rw [if_neg hend] at hsn
        exact h.end_number sn hsn
  | @added p ack b hpoint hadd =>
    obtain ⟨ack', b', hadd', hworks⟩ := LawfulResequencing.works_addPacket h.works p
    obtain ⟨rfl, rfl⟩ := Prod.mk.inj (Except.ok.inj (hadd.symm.trans hadd'))
    refine ⟨fun p hp => ?_, h.end_number, hworks, fun fault hp => ?_⟩
    · cases ack <;> simp at hp
    · cases ack <;> simp at hp
  | faulted hpoint hadd =>
    obtain ⟨ack, b, hadd', -⟩ := LawfulResequencing.works_addPacket h.works _
    cases hadd.symm.trans hadd'
  | pushed => exact ⟨by simp, h.end_number, h.works, by simp⟩
  | delivered hpoint hnext =>
    have hworks := LawfulResequencing.works_getNextPacket h.works
    rw [hnext] at hworks
    exact ⟨h.received, h.end_number, hworks, h.running⟩
  | drained hpoint hnext =>
    have hworks := LawfulResequencing.works_getNextPacket h.works
    rw [hnext] at hworks
    exact ⟨by simp, h.end_number, hworks, by simp⟩

end ArqBenchmark
