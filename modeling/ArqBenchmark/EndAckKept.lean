import ArqBenchmark.EndOfTxAck

namespace ArqBenchmark

open ResequencingView DataPacket

variable {B R : Type} [RetransmissionBuffer B] [ResequencingBuffer R]

variable {packets : List DataPacket} {rtBuffer : B} {rsBuffer : R} {s s' : System B R} {act : Action}
  {a e : SequenceNumber}

structure RunsUntilAcked (t : Transmitter B) : Prop where
  ack : t.ackThread = .exited → t.endOfTxAcked = true
  transmit : t.transmitThread = .exited → t.endOfTxAcked = true

/-- The number of an end-of-transmission packet that the receiver has got, unless there are so many packets
that an older one had the same number. -/
def EndArrived (packets : List DataPacket) (s : System B R) (a : SequenceNumber) : Prop :=
  s.receiver.endOfTxSn = some a ∨ packets.length < 65536 ∧ EndNumber s.history.firstSent a

structure EndAckKept (packets : List DataPacket) (s : System B R) : Prop where
  sent : ∀ a, s.receiver.ackThread = .sent a → EndArrived packets s a → s.AckAlive a
  acked : s.receiver.ackedEndOfTx = true → ∃ e, s.receiver.endOfTxSn = some e ∧ s.AckAlive e
  runs : RunsUntilAcked s.transmitter

theorem System.TxStep.endOfTxAcked_mono {t t' : Transmitter B} (h : TxStep t t') (ha : t.endOfTxAcked = true) :
    t'.endOfTxAcked = true := by
  cases h with
  | same => exact ha
  | submitted => exact ha
  | transmits ht =>
    cases ht with
    | endAcked => rfl
    | _ => exact ha
  | takesAcks ht => cases ht <;> exact ha
  | received => exact ha

theorem System.TxStep.ackExited {t t' : Transmitter B} (h : TxStep t t') (he : t'.ackThread = .exited) :
    t.endOfTxAcked = true ∨ t.ackThread = .exited := by
  cases h with
  | same => exact .inr he
  | submitted => exact .inr he
  | transmits ht => cases ht <;> exact .inr he
  | takesAcks ht =>
    cases ht with
    | loop =>
      left
      cases hacked : t.endOfTxAcked with
      | true => rfl
      | false => simp [hacked] at he
    | pushed => cases he
  | received _ hpoint => rcases hpoint with rfl | ⟨a, rfl⟩ <;> cases he

theorem System.TxStep.transmitExited {t t' : Transmitter B} (h : TxStep t t')
    (he : t'.transmitThread = .exited) :
    t.endOfTxAcked = true ∨ t.transmitThread = .exited := by
  cases h with
  | same => exact .inr he
  | submitted => exact .inr he
  | transmits ht =>
    cases ht with
    | exited _ hacked => exact .inl hacked
    | endAcked => exact .inr he
    | acked => exact .inr he
    | _ => cases he
  | takesAcks ht => cases ht <;> exact .inr he
  | received => exact .inr he

theorem RunsUntilAcked.step {t t' : Transmitter B} (h : RunsUntilAcked t) (ht : System.TxStep t t') :
    RunsUntilAcked t' := by
  refine ⟨fun hexited => ht.endOfTxAcked_mono ?_, fun hexited => ht.endOfTxAcked_mono ?_⟩
  · exact (ht.ackExited hexited).elim id h.ack
  · exact (ht.transmitExited hexited).elim id h.transmit

theorem System.RxStep.endOfTxSn_cases {r r' : Receiver R} (h : RxStep r act r') :
    r'.endOfTxSn = r.endOfTxSn ∨ ∃ now p, act = .resequencingThread now ∧ r.resequencingThread = .received p ∧
      p.isEndOfTx = true ∧ r'.endOfTxSn = some p.header.sequenceNumber := by
  cases h with
  | same => exact .inl rfl
  | @resequences now _ _ _ hr =>
    cases hr with
    | @received p hpoint =>
      by_cases hend : p.isEndOfTx = true
      · exact .inr ⟨now, p, rfl, hpoint, hend, if_pos hend⟩
      · exact .inl (if_neg hend)
    | _ => exact .inl rfl
  | received hr =>
    obtain ⟨-, point, rfl, -⟩ := Receiver.receivePacket_point hr
    exact .inl rfl
  | sendsAcks hr => cases hr <;> exact .inl rfl
  | tryGetPacket => exact .inl rfl

theorem System.RxStep.endOfTxSn {r r' : Receiver R} (h : RxStep r act r') (he : r.endOfTxSn = some e) :
    ∃ e', r'.endOfTxSn = some e' := by
  rcases h.endOfTxSn_cases with hsame | ⟨now, p, -, -, -, hnew⟩
  · exact ⟨e, hsame.trans he⟩
  · exact ⟨_, hnew⟩

theorem System.RxStep.endOfTxSn_of {r r' : Receiver R} (h : RxStep r act r') (he : r'.endOfTxSn = some a) :
    r.endOfTxSn = some a ∨ ∃ now p, act = .resequencingThread now ∧ r.resequencingThread = .received p ∧
      p.isEndOfTx = true ∧ p.header.sequenceNumber = a := by
  rcases h.endOfTxSn_cases with hsame | ⟨now, p, hact, hpoint, hend, hnew⟩
  · exact .inl (hsame.symm.trans he)
  · exact .inr ⟨now, p, hact, hpoint, hend, Option.some.inj (hnew.symm.trans he)⟩

theorem System.sent_of_step (hs : s.step act = some s') (hsent : s'.receiver.ackThread = .sent a) :
    s.receiver.ackThread = .sent a ∨ s'.AckAlive a := by
  cases System.step_steps hs with
  | sendsAcks hr =>
    cases hr with
    | loop => cases hacked : s.receiver.ackedEndOfTx <;> simp [hacked] at hsent
    | @sending b hpoint =>
      obtain rfl : b = a := by simpa using hsent
      exact .inr (.inr (.inl (List.mem_append_right _ (List.mem_singleton_self _))))
    | _ => cases hsent
  | resequences hr => cases hr <;> exact .inl hsent
  | rxReceives _ hr =>
    obtain ⟨-, point, rfl, -⟩ := Receiver.receivePacket_point hr
    exact .inl hsent
  | rxTimesOut hr =>
    obtain rfl := Receiver.receivePacket_none hr
    exact .inl hsent
  | _ => exact .inl hsent

variable [LawfulRetransmission B] [ResequencingView R]

omit [ResequencingBuffer R] in
theorem EndArrived.number (h : EndArrived packets s a) (hc : Carried packets s) :
    EndNumber s.history.firstSent a := by
  rcases h with he | ⟨-, he⟩
  · exact hc.rx.end_number a he
  · exact he

theorem Carried.end_number_of_step (h' : Carried packets s') (hn : packets.length < 65536) (ho : Ordered s)
    (hs : s.step act = some s') (ha : s.HasAck a) (he : EndNumber s'.history.firstSent a) :
    EndNumber s.history.firstSent a := by
  obtain ⟨i, p, hp, hend, rfl⟩ := he
  have hlen := h'.sent_length_le hn
  have hi : i < s'.history.firstSent.length := (List.getElem?_eq_some_iff.mp hp).1
  have hnumber : (UInt16.ofNat i).toNat = i := toNat_ofNat_of_lt (by omega)
  -- The packet that `a` acknowledges was sent before this step.
  have hlt : i < s.history.firstSent.length := by
    rcases ho.acks _ ha with hlt | ⟨-, hmax⟩
    · exact hnumber ▸ Nat.lt_of_lt_of_le hlt ho.rx.frontier_le
    · rw [hmax] at hnumber
      have hmax' : (65535 : UInt16).toNat = 65535 := rfl
      omega
  obtain ⟨more, hmore⟩ := System.firstSent_of_step hs
  rw [hmore, List.getElem?_append_left hlt] at hp
  exact ⟨i, p, hp, hend, rfl⟩

theorem EndArrived.of_step (h : EndArrived packets s' a) (hc' : Carried packets s')
    (ho : packets.length < 65536 → Ordered s) (hnew : packets.length < 65536 ∨ s.NewEnd act)
    (hs : s.step act = some s') (hsent : s.receiver.ackThread = .sent a) : EndArrived packets s a := by
  -- With fewer than 2 ^ 16 packets no number is used twice.
  have hshort : packets.length < 65536 → EndArrived packets s a := fun hn =>
    .inr ⟨hn, hc'.end_number_of_step hn (ho hn) hs (.inl (.inr (.inr (.inr hsent)))) (h.number hc')⟩
  rcases h with he | ⟨hn, -⟩
  · rcases (System.RxStep.of_step hs).endOfTxSn_of he with hold | ⟨now, p, rfl, hpoint, hend, rfl⟩
    · exact .inl hold
    · exact hnew.elim hshort (fun hnew => .inl (hnew p hpoint hend hsent))
  · exact hshort hn

theorem Carried.endAckKept_step (h : Carried packets s) (hc' : Carried packets s') (hone : EndsOnce packets)
    (ho : packets.length < 65536 → Ordered s) (hkept : EndAckKept packets s) (hkeeps : s.KeepsEndAck act)
    (hnew : packets.length < 65536 ∨ s.NewEnd act) (hs : s.step act = some s') : EndAckKept packets s' := by
  have hrx := System.RxStep.of_step hs
  refine ⟨fun a hsent he => ?_, fun hacked => ?_, hkept.runs.step (.of_step hs)⟩
  · rcases System.sent_of_step hs hsent with hold | halive
    · have he' := he.of_step hc' ho hnew hs hold
      exact h.ackAlive_step hone (he'.number h) (hkept.sent a hold he') hkeeps hs
    · exact halive
  · obtain ⟨e, he, halive⟩ : ∃ e, s.receiver.endOfTxSn = some e ∧ s.AckAlive e := by
      rcases hrx.ackedEndOfTx hacked with hold | ⟨sn, hsent, he⟩
      · exact hkept.acked hold
      · exact ⟨sn, he, hkept.sent sn hsent (.inl he)⟩
    obtain ⟨e', he'⟩ := hrx.endOfTxSn he
    have hnumber := h.rx.end_number e he
    obtain ⟨more, hmore⟩ := System.firstSent_of_step hs
    obtain rfl : e' = e := hc'.end_number_unique hone (hc'.rx.end_number e' he') (hmore ▸ hnumber.mono)
    exact ⟨e', he', h.ackAlive_step hone hnumber halive hkeeps hs⟩

def System.KeepsNewEnd (packets : List DataPacket) (s : System B R) (act : Action) : Prop :=
  s.KeepsEndAck act ∧ (packets.length < 2 ^ 16 ∨ s.NewEnd act)

theorem System.Run.endAckKept [LawfulResequencing R] (hi : Initial rtBuffer rsBuffer) (hf : ∀ p ∈ packets, p.Framed)
    (hone : EndsOnce packets)
    (h : Runs.Reaches (fun s act s' => System.step s act = some s') (System.KeepsNewEnd packets)
      (System.new packets rtBuffer rsBuffer) s) : EndAckKept packets s := by
  refine Runs.Reaches.invariant_of (P := EndAckKept packets)
    (K := fun s => Carried packets s ∧ (packets.length < 65536 → Ordered s)) h
    ⟨fun a ha => ?_, fun ha => ?_, fun ha => ?_, fun ha => ?_⟩
    (fun t ht => ⟨System.Run.carried hf hi.held hi.works ht.reachable,
      fun hn => (System.Run.sound hi hf hn ht.reachable).2⟩)
    (fun t act u ht hu hkept hkeeps hs => ht.1.endAckKept_step hu.1 hone ht.2 hkept hkeeps.1 hkeeps.2 hs)
  · cases ha
  · cases ha
  · cases ha
  · cases ha

end ArqBenchmark
