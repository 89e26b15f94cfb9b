import ArqBenchmark.Receiver
import ArqBenchmark.Runs
import ArqBenchmark.Transmitter

namespace ArqBenchmark

/-- What has happened so far: the packets given to `sendPacket`, those transmitted for the first time,
and those that the resequencing buffer and the output buffer have accepted. -/
structure History where
  submitted : List DataPacket
  firstSent : List DataPacket
  rsAccepted : List DataPacket
  obAccepted : List DataPacket
deriving DecidableEq, Repr

/-- A transmitter, a receiver and the datagrams between them. `toSubmit` is what the application has
still to give to `sendPacket`. -/
structure System (B R : Type) where
  toSubmit : List DataPacket
  transmitter : Transmitter B
  receiver : Receiver R
  dataChannel : List (List Byte)
  ackChannel : List (List Byte)
  history : History
deriving DecidableEq, Repr

/-- A step of one of the threads, of the application or of the network. The network hands over any
datagram in flight, and bytes of an older one may be left behind it in the receive buffer. -/
inductive Action
  | sendPacket (now : Clock)
  | transmitThread (now : Clock)
  | txAckThread
  | txReceive (i : ℕ) (recvBuffer : ReceiveBuffer)
  | txReceiveTimeout
  | resequencingThread (now : Clock)
  | rxReceive (i : ℕ) (recvBuffer : ReceiveBuffer)
  | rxReceiveTimeout
  | rxAckThread
  | tryGetPacket
  | dropData (i : ℕ)
  | duplicateData (i : ℕ)
  | dropAck (i : ℕ)
  | duplicateAck (i : ℕ)

namespace System

variable {B R : Type}

def new (packets : List DataPacket) (rtBuffer : B) (rsBuffer : R) : System B R where
  toSubmit := packets
  transmitter := .new rtBuffer
  receiver := .new rsBuffer
  dataChannel := []
  ackChannel := []
  history := ⟨[], [], [], []⟩

variable [RetransmissionBuffer B] [ResequencingBuffer R]

def sendPacket (s : System B R) (now : Clock) : Option (System B R) :=
  match s.toSubmit with
  | [] => none
  | packet :: toSubmit =>
    match s.transmitter.sendPacket now packet with
    | .ok t =>
      some { s with
        toSubmit := toSubmit
        transmitter := t
        history.submitted := s.history.submitted ++ [packet] }
    | .error _ => none

def transmitThread (s : System B R) (now : Clock) : Option (System B R) :=
  (s.transmitter.transmitStep now).map fun (t, datagram, packet) => { s with
    transmitter := t
    dataChannel := s.dataChannel ++ datagram.toList
    history.firstSent := s.history.firstSent ++ packet.toList }

def resequencingThread (s : System B R) (now : Clock) : Option (System B R) :=
  (s.receiver.resequencingStep now).map fun (r, accepted, delivered) => { s with
    receiver := r
    history.rsAccepted := s.history.rsAccepted ++ accepted.toList
    history.obAccepted := s.history.obAccepted ++ delivered.toList }

def txReceive (s : System B R) (i : ℕ) (recvBuffer : ReceiveBuffer) : Option (System B R) :=
  match s.ackChannel[i]? with
  | some datagram =>
    (s.transmitter.receiveAck (some (receiveInto datagram recvBuffer))).map fun t => { s with
      transmitter := t
      ackChannel := s.ackChannel.eraseIdx i }
  | none => none

def rxReceive (s : System B R) (i : ℕ) (recvBuffer : ReceiveBuffer) : Option (System B R) :=
  match s.dataChannel[i]? with
  | some datagram =>
    (s.receiver.receivePacket (some (receiveInto datagram recvBuffer))).map fun r => { s with
      receiver := r
      dataChannel := s.dataChannel.eraseIdx i }
  | none => none

def step (s : System B R) : Action → Option (System B R)
  | .sendPacket now => s.sendPacket now
  | .transmitThread now => s.transmitThread now
  | .txAckThread => s.transmitter.ackThreadStep.map fun t => { s with transmitter := t }
  | .txReceive i recvBuffer => s.txReceive i recvBuffer
  | .txReceiveTimeout => (s.transmitter.receiveAck none).map fun t => { s with transmitter := t }
  | .resequencingThread now => s.resequencingThread now
  | .rxReceive i recvBuffer => s.rxReceive i recvBuffer
  | .rxReceiveTimeout => (s.receiver.receivePacket none).map fun r => { s with receiver := r }
  | .rxAckThread => s.receiver.ackThreadStep.map fun (r, datagram) => { s with
      receiver := r
      ackChannel := s.ackChannel ++ datagram.toList }
  | .tryGetPacket => some { s with receiver := s.receiver.tryGetPacket.2 }
  | .dropData i => some { s with dataChannel := s.dataChannel.eraseIdx i }
  | .duplicateData i => some { s with dataChannel := s.dataChannel ++ s.dataChannel[i]?.toList }
  | .dropAck i => some { s with ackChannel := s.ackChannel.eraseIdx i }
  | .duplicateAck i => some { s with ackChannel := s.ackChannel ++ s.ackChannel[i]?.toList }

inductive Steps (s : System B R) : Action → System B R → Prop
  | submits {now : Clock} {packet : DataPacket} {toSubmit : List DataPacket} {inputBuffer : InputBuffer} :
      s.toSubmit = packet :: toSubmit → s.transmitter.inputBuffer.addPacket now packet = .ok inputBuffer →
      Steps s (.sendPacket now) { s with
        toSubmit := toSubmit
        transmitter := { s.transmitter with inputBuffer := inputBuffer }
        history.submitted := s.history.submitted ++ [packet] }
  | transmits {now : Clock} {t : Transmitter B} {datagram : Option (List Byte)} {packet : Option DataPacket} :
      s.transmitter.Transmits now t datagram packet →
      Steps s (.transmitThread now) { s with
        transmitter := t
        dataChannel := s.dataChannel ++ datagram.toList
        history.firstSent := s.history.firstSent ++ packet.toList }
  | takesAcks {t : Transmitter B} : s.transmitter.TakesAcks t → Steps s .txAckThread { s with transmitter := t }
  | txReceives {i : ℕ} {recvBuffer : ReceiveBuffer} {datagram : List Byte} {t : Transmitter B} :
      s.ackChannel[i]? = some datagram → s.transmitter.receiveAck (some (receiveInto datagram recvBuffer)) = some t →
      Steps s (.txReceive i recvBuffer) { s with transmitter := t, ackChannel := s.ackChannel.eraseIdx i }
  | txTimesOut {t : Transmitter B} : s.transmitter.receiveAck none = some t →
      Steps s .txReceiveTimeout { s with transmitter := t }
  | resequences {now : Clock} {r : Receiver R} {accepted delivered : Option DataPacket} :
      s.receiver.Resequences now r accepted delivered →
      Steps s (.resequencingThread now) { s with
        receiver := r
        history.rsAccepted := s.history.rsAccepted ++ accepted.toList
        history.obAccepted := s.history.obAccepted ++ delivered.toList }
  | rxReceives {i : ℕ} {recvBuffer : ReceiveBuffer} {datagram : List Byte} {r : Receiver R} :
      s.dataChannel[i]? = some datagram → s.receiver.receivePacket (some (receiveInto datagram recvBuffer)) = some r →
      Steps s (.rxReceive i recvBuffer) { s with receiver := r, dataChannel := s.dataChannel.eraseIdx i }
  | rxTimesOut {r : Receiver R} : s.receiver.receivePacket none = some r →
      Steps s .rxReceiveTimeout { s with receiver := r }
  | sendsAcks {r : Receiver R} {datagram : Option (List Byte)} : s.receiver.SendsAcks r datagram →
      Steps s .rxAckThread { s with receiver := r, ackChannel := s.ackChannel ++ datagram.toList }
  | tryGetPacket : Steps s .tryGetPacket { s with receiver := s.receiver.tryGetPacket.2 }
  | dropData {i : ℕ} : Steps s (.dropData i) { s with dataChannel := s.dataChannel.eraseIdx i }
  | duplicateData {i : ℕ} :
      Steps s (.duplicateData i) { s with dataChannel := s.dataChannel ++ s.dataChannel[i]?.toList }
  | dropAck {i : ℕ} : Steps s (.dropAck i) { s with ackChannel := s.ackChannel.eraseIdx i }
  | duplicateAck {i : ℕ} :
      Steps s (.duplicateAck i) { s with ackChannel := s.ackChannel ++ s.ackChannel[i]?.toList }

theorem sendPacket_steps {s s' : System B R} {now : Clock} (h : s.sendPacket now = some s') :
    s.Steps (.sendPacket now) s' := by
  rw [sendPacket] at h
  split at h
  · cases h
  next packet toSubmit hsubmit =>
    split at h
    next t ht =>
      rw [Transmitter.sendPacket] at ht
      obtain ⟨inputBuffer, hadd, hput⟩ := Loops.bind_eq_ok.mp ht
      cases hput
      cases h
      exact .submits hsubmit hadd
    next => cases h

theorem txReceive_steps {s s' : System B R} {i : ℕ} {recvBuffer : ReceiveBuffer}
    (h : s.txReceive i recvBuffer = some s') : s.Steps (.txReceive i recvBuffer) s' := by
  rw [txReceive] at h
  split at h
  next datagram hd =>
    obtain ⟨t, ht, rfl⟩ := Option.map_eq_some_iff.mp h
    exact .txReceives hd ht
  next => cases h

theorem rxReceive_steps {s s' : System B R} {i : ℕ} {recvBuffer : ReceiveBuffer}
    (h : s.rxReceive i recvBuffer = some s') : s.Steps (.rxReceive i recvBuffer) s' := by
  rw [rxReceive] at h
  split at h
  next datagram hd =>
    obtain ⟨r, hr, rfl⟩ := Option.map_eq_some_iff.mp h
    exact .rxReceives hd hr
  next => cases h

theorem step_steps {s s' : System B R} {act : Action} (h : s.step act = some s') : s.Steps act s' := by
  cases act with
  | sendPacket now => exact sendPacket_steps h
  | transmitThread now =>
    obtain ⟨⟨t, datagram, packet⟩, ht, rfl⟩ := Option.map_eq_some_iff.mp h
    exact .transmits (Transmitter.transmitStep_transmits ht)
  | txAckThread =>
    obtain ⟨t, ht, rfl⟩ := Option.map_eq_some_iff.mp h
    exact .takesAcks (Transmitter.ackThreadStep_takesAcks ht)
  | txReceive i recvBuffer => exact txReceive_steps h
  | txReceiveTimeout =>
    obtain ⟨t, ht, rfl⟩ := Option.map_eq_some_iff.mp h
    exact .txTimesOut ht
  | resequencingThread now =>
    obtain ⟨⟨r, accepted, delivered⟩, hr, rfl⟩ := Option.map_eq_some_iff.mp h
    exact .resequences (Receiver.resequencingStep_resequences hr)
  | rxReceive i recvBuffer => exact rxReceive_steps h
  | rxReceiveTimeout =>
    obtain ⟨r, hr, rfl⟩ := Option.map_eq_some_iff.mp h
    exact .rxTimesOut hr
  | rxAckThread =>
    obtain ⟨⟨r, datagram⟩, hr, rfl⟩ := Option.map_eq_some_iff.mp h
    exact .sendsAcks (Receiver.ackThreadStep_sendsAcks hr)
  | tryGetPacket =>
    cases h
    exact .tryGetPacket
  | dropData i =>
    cases h
    exact .dropData
  | duplicateData i =>
    cases h
    exact .duplicateData
  | dropAck i =>
    cases h
    exact .dropAck
  | duplicateAck i =>
    cases h
    exact .duplicateAck

abbrev Run (packets : List DataPacket) (rtBuffer : B) (rsBuffer : R) (s : System B R) : Prop :=
  Runs.Reachable (fun s a s' => step s a = some s') (new packets rtBuffer rsBuffer) s

end System

end ArqBenchmark
