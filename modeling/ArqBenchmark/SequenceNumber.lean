import Mathlib.Data.Int.Notation
import Mathlib.Tactic.Common

namespace ArqBenchmark

abbrev Byte := UInt8

abbrev SequenceNumber := UInt16

abbrev ConversationID := UInt8

/-- Readings of `ClockType`, in nanoseconds. -/
abbrev Time := ℤ

/-- The successive readings of `ClockType::now()` during one call. -/
abbrev Clock := ℕ → Time

/-- How a call can fail to return: the exceptions the code throws, a failed assertion, undefined
behaviour, and a loop that never ends. -/
inductive Fault
  | outOfBounds
  | moduloByZero
  | assertionFailed
  | endlessLoop
  | arqProtocolException (what : String)
  | dataPacketException (what : String)
deriving DecidableEq, Repr

def firstSequenceNumber : SequenceNumber := 0

def readAt {α : Type} (buffer : List α) (i : ℕ) : Except Fault α :=
  match buffer[i]? with
  | some a => .ok a
  | none => .error .outOfBounds

def writeAt {α : Type} (buffer : List α) (i : ℕ) (a : α) : Except Fault (List α) :=
  if i < buffer.length then .ok (buffer.set i a) else .error .outOfBounds

def modulo (a b : ℕ) : Except Fault ℕ :=
  if b = 0 then .error .moduloByZero else .ok (a % b)

/-- `std::span::subspan(offset, count)`, defined only when `offset + count` is within the span. -/
def subspan (span : List Byte) (offset count : ℕ) : Except Fault (List Byte) :=
  if offset + count ≤ span.length then .ok ((span.drop offset).take count) else .error .outOfBounds

def overwrite (buffer : List Byte) (pos : ℕ) (bytes : List Byte) : List Byte :=
  buffer.take pos ++ bytes ++ buffer.drop (pos + bytes.length)

def htons (value : UInt16) : List Byte :=
  [UInt8.ofNat (value.toNat / 256), UInt8.ofNat (value.toNat % 256)]

def ntohs : List Byte → UInt16
  | hi :: lo :: _ => UInt16.ofNat (hi.toNat * 256 + lo.toNat)
  | _ => 0

def serialiseSeqNum (sequenceNumber : SequenceNumber) (buffer : List Byte) : Bool × List Byte :=
  if buffer.length < 2 then (false, buffer) else (true, overwrite buffer 0 (htons sequenceNumber))

def deserialiseSeqNum (sequenceNumber : SequenceNumber) (buffer : List Byte) : Bool × SequenceNumber :=
  if buffer.length < 2 then (false, sequenceNumber) else (true, ntohs buffer)

@[simp] theorem modulo_pos {a b : ℕ} (h : 0 < b) : modulo a b = .ok (a % b) := by
  simp only [modulo, Nat.ne_of_gt h, ↓reduceIte]

theorem readAt_eq {α : Type} {buffer : List α} {i : ℕ} {a : α} (h : buffer[i]? = some a) :
    readAt buffer i = .ok a := by
  simp only [readAt, h]

theorem writeAt_eq {α : Type} {buffer : List α} {i : ℕ} (h : i < buffer.length) (a : α) :
    writeAt buffer i a = .ok (buffer.set i a) := by
  simp only [writeAt, h, ↓reduceIte]

theorem readAt_eq_ok {α : Type} {buffer : List α} {i : ℕ} {a : α} :
    readAt buffer i = .ok a ↔ buffer[i]? = some a := by
  constructor
  · intro h
    unfold readAt at h
    split at h
    next hi =>
      cases h
      exact hi
    next => cases h
  · exact readAt_eq

theorem writeAt_eq_ok {α : Type} {buffer buffer' : List α} {i : ℕ} {a : α} :
    writeAt buffer i a = .ok buffer' ↔ i < buffer.length ∧ buffer.set i a = buffer' := by
  unfold writeAt
  split
  next hi => simp only [Except.ok.injEq, hi, true_and]
  next hi => simp only [reduceCtorEq, hi, false_and]

@[simp] theorem htons_length (value : UInt16) : (htons value).length = 2 := rfl

@[simp] theorem ntohs_htons (value : UInt16) (rest : List Byte) : ntohs (htons value ++ rest) = value := by
  have hv := value.toNat_lt
  apply UInt16.toNat_inj.mp
  simp only [htons, List.cons_append, ntohs, UInt16.toNat_ofNat', UInt8.toNat_ofNat']
  omega

theorem htons_ntohs (hi lo : Byte) (rest : List Byte) : htons (ntohs (hi :: lo :: rest)) = [hi, lo] := by
  have h1 := hi.toNat_lt
  have h2 := lo.toNat_lt
  have hvalue : (ntohs (hi :: lo :: rest)).toNat = hi.toNat * 256 + lo.toNat := by
    rw [ntohs, UInt16.toNat_ofNat']
    omega
  have hfirst : (hi.toNat * 256 + lo.toNat) / 256 = hi.toNat := by omega
  have hsecond : (hi.toNat * 256 + lo.toNat) % 256 = lo.toNat := by omega
  rw [htons, hvalue, hfirst, hsecond, UInt8.ofNat_toNat, UInt8.ofNat_toNat]

theorem serialiseSeqNum_eq {buffer : List Byte} (h : 2 ≤ buffer.length) (sn : SequenceNumber) :
    serialiseSeqNum sn buffer = (true, htons sn ++ buffer.drop 2) := by
  simp [serialiseSeqNum, overwrite, Nat.not_lt.mpr h]

theorem deserialiseSeqNum_eq {buffer : List Byte} (h : 2 ≤ buffer.length) (sn : SequenceNumber) :
    deserialiseSeqNum sn buffer = (true, ntohs buffer) := by
  simp [deserialiseSeqNum, Nat.not_lt.mpr h]

theorem toNat_ofNat_of_lt {i : ℕ} (hi : i < 65536) : (UInt16.ofNat i).toNat = i := by
  simp only [UInt16.toNat_ofNat']
  omega

end ArqBenchmark
