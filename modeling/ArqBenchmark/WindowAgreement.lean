import ArqBenchmark.AckOverrun
import ArqBenchmark.SlidingWindow

namespace ArqBenchmark

open ResequencingView DataPacket RotatedRing

/-- A window of at most `N` packets, and the sequence number `next` that the receiver expects. -/
structure WindowsAgree (N : UInt16) (window : Rt.CircularBuffer) (next : ℕ) (history : History) : Prop where
  next_bounds : window.nextToAck.toNat ≤ next ∧ next ≤ window.nextToAck.toNat + window.packetsInBuffer
  sent_eq : window.nextToAck.toNat + window.packetsInBuffer = history.firstSent.length
  size : window.packets.length = window.packetsInBuffer ∧ window.packetsInBuffer ≤ N.toNat
  numbers : ∀ i o, window.packets[i]? = some o →
    o.info.sequenceNumber.toNat = window.nextToAck.toNat + i
  bytes : window.packets.map TransmitBufferObject.packet = history.firstSent.drop window.nextToAck.toNat
  released : ∀ i p, history.firstSent[i]? = some p → p ∈ window.packets.map TransmitBufferObject.packet ∨
    i < next ∧ ∃ p' ∈ history.rsAccepted, p'.IsCopy p

section Windows

variable {B R : Type} [RetransmissionBuffer B] [Rt.OverCircularBuffer B] [ResequencingView R]
  {packets : List DataPacket} {s : System B R}
  {N : UInt16} {base : ℕ} {q : List TransmitBufferObject}

theorem Agreement.windowsAgree (h : Agreement N.toNat s base q) (hc : Carried packets s)
    (hn : packets.length < 65536) (ho : Ordered s) :
    WindowsAgree N (Rt.OverCircularBuffer.window s.transmitter.retransmissionBuffer)
      (frontier s.receiver.resequencingBuffer) s.history := by
  have haligned : (Rt.OverCircularBuffer.window s.transmitter.retransmissionBuffer).Aligned base q := h.aligned
  have hlen := hc.sent_length_le hn
  have hsent := h.sent_eq ho
  have hbase : (Rt.OverCircularBuffer.window s.transmitter.retransmissionBuffer).nextToAck.toNat = base := by
    rw [haligned.next_eq, toNat_ofNat_of_lt (by omega)]
  have hcapacity :
      (Rt.OverCircularBuffer.window s.transmitter.retransmissionBuffer).windowSize.toNat = N.toNat :=
    h.capacity_eq
  have hsize := haligned.holds.length_le
  refine ⟨?_, ?_, ?_, ?_, ?_, ?_⟩
  · rw [hbase, haligned.count_eq, hsent]
    exact ⟨h.base_le, ho.rx.frontier_le⟩
  · rw [hbase, haligned.count_eq, hsent]
  · rw [haligned.holds.packets_eq, haligned.count_eq, ← hcapacity]
    exact ⟨rfl, hsize⟩
  · intro i o hi
    rw [haligned.holds.packets_eq] at hi
    have hlt : i < q.length := (List.getElem?_eq_some_iff.mp hi).1
    rw [haligned.sequence i o hi, hbase, toNat_ofNat_of_lt (by omega)]
  · rw [haligned.holds.packets_eq, hbase, h.packets_eq]
  · intro i p hp
    rw [haligned.holds.packets_eq]
    exact h.released hc hn ho hp

end Windows

structure System.GoBackNAgrees (N : UInt16) (s : System Rt.GoBackN Rs.GoBackN) : Prop where
  windows : WindowsAgree N s.transmitter.retransmissionBuffer.window
    s.receiver.resequencingBuffer.nextSequenceNumber.toNat s.history
  acks : ∀ a, s.HasAck a → a.toNat < s.receiver.resequencingBuffer.nextSequenceNumber.toNat

/-- A packet leaves the retransmission buffer only after the receiver has accepted it in order. -/
theorem go_back_n_windows_agree (packets : List DataPacket) (hp : ∀ p ∈ packets, p.TransmitSide)
    (hn : packets.length < 2 ^ 16) (N : UInt16) (hN : 0 < N) (timeout : ℤ) (s : System Rt.GoBackN Rs.GoBackN)
    (hs : System.Run packets (.new N timeout firstSequenceNumber) (.new firstSequenceNumber) s) :
    s.GoBackNAgrees N := by
  have hf : ∀ p ∈ packets, p.Framed := fun p hmem => (hp p hmem).framed
  have hi := initial_goBackN N timeout
  obtain ⟨hc, ho⟩ := hs.sound hi hf hn
  obtain ⟨base, q, hagree⟩ := System.agreement hi (Rt.CircularBuffer.new_aligned hN timeout firstSequenceNumber)
    hf hn (hs.mono (fun _ _ _ hearly => hearly.elim))
  refine ⟨hagree.windowsAgree hc hn ho, fun a ha => ?_⟩
  rcases ho.acks a ha with hlt | ⟨hearly, -⟩
  · exact hlt
  · exact hearly.elim

theorem go_back_n_windows_agree_run :
    ∃ s, System.Run samplePackets (.new 2 100 firstSequenceNumber) (.new firstSequenceNumber) s ∧
      s.transmitter.retransmissionBuffer.window.nextToAck = 1 ∧ s.GoBackNAgrees 2 := by
  have hrun : ((Runs.replay System.step (System.new samplePackets (Rt.GoBackN.new 2 100 firstSequenceNumber)
      (Rs.GoBackN.new firstSequenceNumber)) sampleRun).any
        fun s => s.transmitter.retransmissionBuffer.window.nextToAck == 1) = true := by
    decide +kernel
  obtain ⟨s, hs, hnext⟩ := Runs.exists_reachable hrun
  exact ⟨s, hs, by simpa using hnext,
    go_back_n_windows_agree samplePackets samplePackets_transmitSide (by decide) 2 (by decide) 100 s hs⟩

end ArqBenchmark
