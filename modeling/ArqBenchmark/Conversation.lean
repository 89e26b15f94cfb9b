import ArqBenchmark.ReceiverContents
import ArqBenchmark.System
import ArqBenchmark.TransmitterContents

namespace ArqBenchmark

open ResequencingView DataPacket

variable {B R : Type} [RetransmissionBuffer B] [LawfulRetransmission B] [ResequencingView R]

structure Carried (packets : List DataPacket) (s : System B R) : Prop where
  submitted : s.history.submitted ++ s.toSubmit = packets
  tx : TxCarried s.history.submitted s.history.firstSent s.transmitter
  rx : RxCarried s.history.firstSent s.receiver
  data : ∀ d ∈ s.dataChannel, ∃ p ∈ s.history.firstSent, d = p.data
  acks : ∀ d ∈ s.ackChannel, ∃ a, d = htons a

variable {packets : List DataPacket} {s s' : System B R}

theorem Carried.framed (h : Carried packets s) (hf : ∀ p ∈ packets, p.Framed) {p : DataPacket}
    (hp : p ∈ s.history.firstSent) : p.Framed :=
  h.tx.sent_framed (fun p hp => hf p (h.submitted ▸ List.mem_append_left _ hp)) hp

theorem Carried.sent_getElem? (h : Carried packets s) {i : ℕ} {p : DataPacket}
    (hp : s.history.firstSent[i]? = some p) : ∃ p₀, packets[i]? = some p₀ ∧ p = numbered i p₀ := by
  obtain ⟨p₀, hp₀, heq⟩ := h.tx.sent_getElem? hp
  have hi : i < s.history.submitted.length := (List.getElem?_eq_some_iff.mp hp₀).1
  exact ⟨p₀, by rw [← h.submitted, List.getElem?_append_left hi, hp₀], heq⟩

theorem Carried.sent_number (h : Carried packets s) {i : ℕ} {p : DataPacket}
    (hp : s.history.firstSent[i]? = some p) : p.header.sequenceNumber = UInt16.ofNat i := by
  obtain ⟨p₀, -, rfl⟩ := h.sent_getElem? hp
  rfl

theorem Carried.submits (h : Carried packets s) (hf : ∀ p ∈ packets, p.Framed) {now : Clock} {p : DataPacket}
    {toSubmit : List DataPacket} {inputBuffer : InputBuffer} (hsubmit : s.toSubmit = p :: toSubmit)
    (hadd : s.transmitter.inputBuffer.addPacket now p = .ok inputBuffer) :
    Carried packets { s with
      toSubmit := toSubmit
      transmitter := { s.transmitter with inputBuffer := inputBuffer }
      history.submitted := s.history.submitted ++ [p] } := by
  have hp : p.Framed := hf p (by rw [← h.submitted, hsubmit]; simp)
  exact ⟨by rw [← h.submitted, hsubmit]; simp, h.tx.submits hp hadd, h.rx, h.data, h.acks⟩

theorem Carried.transmits (h : Carried packets s) {now : Clock} {t : Transmitter B} {d : Option (List Byte)}
    {p : Option DataPacket} (ht : s.transmitter.Transmits now t d p) :
    Carried packets { s with
      transmitter := t
      dataChannel := s.dataChannel ++ d.toList
      history.firstSent := s.history.firstSent ++ p.toList } := by
  obtain ⟨htx, hd⟩ := h.tx.transmits ht
  refine ⟨h.submitted, htx, h.rx.mono _, ?_, h.acks⟩
  intro bytes hb
  rcases List.mem_append.mp hb with hb | hb
  · obtain ⟨p', hp', heq⟩ := h.data bytes hb
    exact ⟨p', List.mem_append_left _ hp', heq⟩
  · exact hd bytes (Option.mem_toList.mp hb)

theorem Carried.rxReceives (h : Carried packets s) (hf : ∀ p ∈ packets, p.Framed) {i : ℕ}
    {recvBuffer : ReceiveBuffer} {d : List Byte} {r : Receiver R} (hd : s.dataChannel[i]? = some d)
    (hr : s.receiver.receivePacket (some (receiveInto d recvBuffer)) = some r) :
    Carried packets { s with receiver := r, dataChannel := s.dataChannel.eraseIdx i } := by
  obtain ⟨q, hq, rfl⟩ := h.data d (List.mem_of_getElem? hd)
  obtain ⟨p, hcopy, rfl⟩ := Receiver.receivePacket_copy (h.framed hf hq) recvBuffer hr
  refine ⟨h.submitted, h.tx, ⟨?_, h.rx.end_number, h.rx.works, by simp⟩,
    fun d hd => h.data d (List.mem_of_mem_eraseIdx hd), h.acks⟩
  intro p' hp'
  obtain rfl : p = p' := by simpa using hp'
  exact ⟨q, hq, hcopy⟩

theorem Carried.sendsAcks (h : Carried packets s) {r : Receiver R} {d : Option (List Byte)}
    (hr : s.receiver.SendsAcks r d) :
    Carried packets { s with receiver := r, ackChannel := s.ackChannel ++ d.toList } := by
  have hkeep : ∀ ackQueue ackedEndOfTx ackThread, RxCarried s.history.firstSent
      { s.receiver with ackQueue := ackQueue, ackedEndOfTx := ackedEndOfTx, ackThread := ackThread } :=
    fun _ _ _ => ⟨h.rx.received, h.rx.end_number, h.rx.works, h.rx.running⟩
  have hsame : RxCarried s.history.firstSent r ∧ ∀ bytes ∈ d, ∃ a, bytes = htons a := by
    cases hr with
    | sending => exact ⟨hkeep _ _ _, fun bytes hb => ⟨_, (Option.some.inj hb).symm⟩⟩
    | _ => exact ⟨hkeep _ _ _, fun _ hb => by cases hb⟩
  refine ⟨h.submitted, h.tx, hsame.1, h.data, fun bytes hb => ?_⟩
  rcases List.mem_append.mp hb with hb | hb
  · exact h.acks bytes hb
  · exact hsame.2 bytes (Option.mem_toList.mp hb)

theorem carried_new {rtBuffer : B} {rsBuffer : R} (hrt : LawfulRetransmission.Holds rtBuffer [])
    (hrs : Works rsBuffer) : Carried packets (System.new packets rtBuffer rsBuffer) where
  submitted := rfl
  tx := {
    numbering := by
      change (0 : UInt16) - 1 + 1 = UInt16.ofNat 0
      decide
    queued := rfl
    queued_number := fun i o ho => by cases ho
    held := ⟨[], hrt, fun o ho => by cases ho⟩
    end_number := fun sn hsn => by cases hsn
    end_sent := fun p hp => by cases hp
    running := by simp [System.new, Transmitter.new] }
  rx := {
    received := by simp [System.new, Receiver.new]
    end_number := fun sn hsn => by cases hsn
    works := hrs
    running := by simp [System.new, Receiver.new] }
  data d hd := by cases hd
  acks d hd := by cases hd

variable [ResequencingBuffer R] [LawfulResequencing R]

theorem Carried.step (h : Carried packets s) (hf : ∀ p ∈ packets, p.Framed) {act : Action}
    (hs : s.step act = some s') : Carried packets s' := by
  cases System.step_steps hs with
  | submits hsubmit hadd => exact h.submits hf hsubmit hadd
  | transmits ht => exact h.transmits ht
  | takesAcks ht => cases ht <;> exact ⟨h.submitted, h.tx.withAcks _ _, h.rx, h.data, h.acks⟩
  | @txReceives i recvBuffer d t hd ht =>
    obtain ⟨a, rfl⟩ := h.acks d (List.mem_of_getElem? hd)
    obtain rfl := Transmitter.receiveAck_htons a recvBuffer ht
    exact ⟨h.submitted, h.tx.withAcks _ _, h.rx, h.data, fun d hd => h.acks d (List.mem_of_mem_eraseIdx hd)⟩
  | txTimesOut ht =>
    obtain rfl := Transmitter.receiveAck_none ht
    exact ⟨h.submitted, h.tx.withAcks _ _, h.rx, h.data, h.acks⟩
  | resequences hr =>
    exact ⟨h.submitted, h.tx, h.rx.resequences (fun i p hp => h.sent_number hp) hr, h.data, h.acks⟩
  | rxReceives hd hr => exact h.rxReceives hf hd hr
  | rxTimesOut hr =>
    obtain rfl := Receiver.receivePacket_none hr
    exact ⟨h.submitted, h.tx, ⟨by simp, h.rx.end_number, h.rx.works, by simp⟩, h.data, h.acks⟩
  | sendsAcks hr => exact h.sendsAcks hr
  | tryGetPacket =>
    exact ⟨h.submitted, h.tx, ⟨h.rx.received, h.rx.end_number, h.rx.works, h.rx.running⟩, h.data, h.acks⟩
  | dropData => exact ⟨h.submitted, h.tx, h.rx, fun d hd => h.data d (List.mem_of_mem_eraseIdx hd), h.acks⟩
  | duplicateData =>
    refine ⟨h.submitted, h.tx, h.rx, fun d hd => ?_, h.acks⟩
    rcases List.mem_append.mp hd with hd | hd
    · exact h.data d hd
    · exact h.data d (List.mem_of_getElem? (Option.mem_toList.mp hd))
  | dropAck => exact ⟨h.submitted, h.tx, h.rx, h.data, fun d hd => h.acks d (List.mem_of_mem_eraseIdx hd)⟩
  | duplicateAck =>
    refine ⟨h.submitted, h.tx, h.rx, h.data, fun d hd => ?_⟩
    rcases List.mem_append.mp hd with hd | hd
    · exact h.acks d hd
    · exact h.acks d (List.mem_of_getElem? (Option.mem_toList.mp hd))

theorem System.Run.carried {rtBuffer : B} {rsBuffer : R} (hf : ∀ p ∈ packets, p.Framed)
    (hrt : LawfulRetransmission.Holds rtBuffer []) (hrs : Works rsBuffer)
    (h : System.Run packets rtBuffer rsBuffer s) : Carried packets s :=
  Runs.Reaches.invariant h (carried_new hrt hrs) (fun _ _ _ ht _ hs => ht.step hf hs)

end ArqBenchmark
