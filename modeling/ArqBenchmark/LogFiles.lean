import ArqBenchmark.LazySearch
import ArqBenchmark.RetransmissionBuffer
import Mathlib.Data.List.Forall2

namespace ArqBenchmark

open LazySearch

/-- How `std::println` writes a time point and how `dateutil` reads it back: what is below a microsecond is
cut off. -/
structure Timestamps where
  println : Time → Text
  parse : Text → Option Time
  println_ne_nil : ∀ t, println t ≠ []
  println_line : ∀ t, '\n' ∉ println t
  parse_println : ∀ t, parse (println t) = some (t / 1000)

def digits (sn : SequenceNumber) : Text := Nat.toDigits 10 sn.toNat

variable (ts : Timestamps)

def packetLine (doing place : String) (sn : SequenceNumber) (time : Time) : Text :=
  doing.toList ++ " packet with SN ".toList ++ (digits sn ++ (" to ".toList ++ place.toList ++
    " at time ".toList ++ (ts.println time ++ ['\n'])))

def MentionsPacket (doing : String) (line : Text) : Prop := doing.toList ++ " packet with SN ".toList <:+: line

/-- What `InputBuffer::addPacket` prints. -/
def InputBuffer.addedLine (info : PacketInfo) : Text :=
  packetLine ts "Adding" "IB" info.sequenceNumber info.firstTxTime

/-- What `OutputBuffer::addPacket` prints. -/
def OutputBuffer.pushedLine (sn : SequenceNumber) (rxTime : Time) : Text := packetLine ts "Pushed" "OB" sn rxTime

section Parsing

/-- A line in which a search fails or whose timestamp cannot be read is left out. -/
def parseLogfile (firstMatch secondMatch : Text → Option Text) (logfile : List Text) : List (Text × Time) :=
  logfile.filterMap fun line => do
    let sequenceNumber ← firstMatch line
    let timestampStr ← secondMatch line
    let timestamp ← ts.parse timestampStr
    some (sequenceNumber, timestamp)

def parsePacketLines (doing place : String) (logfile : List Text) : List (Text × Time) :=
  parseLogfile ts (search (doing.toList ++ " packet with SN ".toList) (" to ".toList ++ place.toList).isPrefixOf)
    (search (" to ".toList ++ place.toList ++ " at time ".toList) atEnd) logfile

def parseServerLogfile (logfile : List Text) : List (Text × Time) := parsePacketLines ts "Adding" "IB" logfile

def parseClientLogfile (logfile : List Text) : List (Text × Time) := parsePacketLines ts "Pushed" "OB" logfile

theorem parsePacketLines_append (doing place : String) (logfile more : List Text) :
    parsePacketLines ts doing place (logfile ++ more) =
      parsePacketLines ts doing place logfile ++ parsePacketLines ts doing place more :=
  List.filterMap_append

theorem parsePacketLines_append_other {doing place : String} {logfile : List Text} {line : Text}
    (h : ¬ MentionsPacket doing line) :
    parsePacketLines ts doing place (logfile ++ [line]) = parsePacketLines ts doing place logfile := by
  have hline : parsePacketLines ts doing place [line] = [] := by
    rw [parsePacketLines, parseLogfile, List.filterMap_cons, search_none h]
    rfl
  rw [parsePacketLines_append, hline, List.append_nil]

theorem digits_ne {sn : SequenceNumber} {c : Char} (h : c.isDigit = false) : c ∉ digits sn := by
  intro hc
  rw [Nat.isDigit_of_mem_toDigits (by decide) (by decide) hc] at h
  cases h

theorem parsePacketLines_packetLine {doing place : String} (hdoing : doing.toList ≠ [])
    (hwords : List.IsChain (fun x y => ¬ (x = ' ' ∧ y = 't')) (doing.toList ++ " packet with SN ".toList))
    (sn : SequenceNumber) (time : Time) :
    parsePacketLines ts doing place [packetLine ts doing place sn time] = [(digits sn, time / 1000)] := by
  have hfirst : search (doing.toList ++ " packet with SN ".toList) (" to ".toList ++ place.toList).isPrefixOf
      (packetLine ts doing place sn time) = some (digits sn) := by
    have hto : " to ".toList ++ place.toList = ' ' :: ('t' :: 'o' :: ' ' :: place.toList) := rfl
    rw [packetLine, List.append_assoc (" to ".toList ++ place.toList), hto]
    exact search_here (List.append_ne_nil_of_left_ne_nil hdoing _)
      (upTo_literal (digits_ne rfl) Nat.toDigits_ne_nil (digits_ne rfl) _)
  have hsecond : search (" to ".toList ++ place.toList ++ " at time ".toList) atEnd
      (packetLine ts doing place sn time) = some (ts.println time) := by
    have hfront : List.IsChain (fun x y => ¬ (x = ' ' ∧ y = 't'))
        (doing.toList ++ " packet with SN ".toList ++ (digits sn ++ [' '])) := by
      apply isChain_append_of_notMem hwords
      rw [List.mem_append, not_or]
      exact ⟨digits_ne rfl, by decide⟩
    have hto : " to ".toList ++ place.toList ++ " at time ".toList =
        ' ' :: 't' :: ('o' :: ' ' :: (place.toList ++ " at time ".toList)) := rfl
    have hline : packetLine ts doing place sn time =
        doing.toList ++ " packet with SN ".toList ++ digits sn ++
          ' ' :: ('t' :: 'o' :: ' ' :: (place.toList ++ " at time ".toList) ++ (ts.println time ++ ['\n'])) := by
      rw [packetLine, ← List.append_assoc _ (digits sn)]
      rfl
    rw [← List.append_assoc] at hfront
    rw [hline, hto, search_skip hfront]
    exact search_here (by simp) (upTo_atEnd (ts.println_line time) (ts.println_ne_nil time))
  rw [parsePacketLines, parseLogfile, List.filterMap_cons, hfirst, hsecond]
  simp only [Option.bind_eq_bind, Option.bind_some, ts.parse_println, List.filterMap_nil]

end Parsing

section Validation

def checkPairs : List ((Text × Time) × (Text × Time)) → ℕ
  | [] => 0
  | (server, client) :: pairs =>
    if server.1 ≠ client.1 then 1
    else if server.2 > client.2 then 1
    else checkPairs pairs

/-- The result is 0 when the time series are valid. -/
def validateTimeSeriesData (serverTimeSeries clientTimeSeries : List (Text × Time)) : ℕ :=
  if serverTimeSeries.length ≠ clientTimeSeries.length then 1
  else checkPairs (serverTimeSeries.zip clientTimeSeries)

/-- The same packet, which has not come out of the output buffer before it went into the input buffer. -/
def Follows (server client : Text × Time) : Prop := server.1 = client.1 ∧ server.2 ≤ client.2

theorem validateTimeSeriesData_eq_zero {server client : List (Text × Time)} (h : List.Forall₂ Follows server client) :
    validateTimeSeriesData server client = 0 := by
  rw [validateTimeSeriesData, if_neg (not_not.mpr h.length_eq)]
  induction h with
  | nil => rfl
  | cons hfollows _ ih =>
    rw [List.zip_cons_cons, checkPairs, if_neg (not_not.mpr hfollows.1), if_neg (not_lt.mpr hfollows.2), ih]

def timeSeries (i : ℕ) : List Time → List (Text × Time)
  | [] => []
  | t :: times => (digits (UInt16.ofNat i), t / 1000) :: timeSeries (i + 1) times

theorem timeSeries_append (i : ℕ) (times more : List Time) :
    timeSeries i (times ++ more) = timeSeries i times ++ timeSeries (i + times.length) more := by
  induction times generalizing i with
  | nil => rfl
  | cons t times ih =>
    rw [List.cons_append, timeSeries, timeSeries, ih, List.length_cons, List.cons_append]
    congr 3
    omega

@[simp] theorem length_timeSeries (i : ℕ) (times : List Time) : (timeSeries i times).length = times.length := by
  induction times generalizing i with
  | nil => rfl
  | cons t times ih => simp [timeSeries, ih]

theorem timeSeries_take (i k : ℕ) (times : List Time) :
    (timeSeries i times).take k = timeSeries i (times.take k) := by
  induction times generalizing i k with
  | nil => simp [timeSeries]
  | cons t times ih =>
    cases k with
    | zero => rfl
    | succ k => simp [timeSeries, ih]

theorem timeSeries_follows {added pushed : List Time} (h : List.Forall₂ (· ≤ ·) added pushed) (i : ℕ) :
    List.Forall₂ Follows (timeSeries i added) (timeSeries i pushed) := by
  induction h generalizing i with
  | nil => exact .nil
  | cons hle _ ih => exact .cons ⟨rfl, Int.ediv_le_ediv (by decide) hle⟩ (ih (i + 1))

end Validation

section Sample

end Sample

end ArqBenchmark
