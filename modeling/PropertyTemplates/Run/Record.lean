import PropertyTemplates.Instant
import PropertyTemplates.Json.Reading
import PropertyTemplates.Run.Report

namespace PropertyTemplates

-- The name of a run, and when it started and ended in nanoseconds since the start of 1970 in UTC.
structure Stamp where
  run : String
  start : Nat
  finish : Nat
deriving DecidableEq, Repr

def secondsPerDay : Nat := 24 * 60 * 60

-- The day that is the given number of days after the start of 1970.
def Day.after (days : Nat) : Day := Nat.repeat Day.next days ⟨1970, 1, 1⟩

def TimeOfDay.ofSeconds (seconds nano : Nat) : TimeOfDay :=
  ⟨seconds / 3600, seconds / 60 % 60, seconds % 60, nano⟩

-- The text of a point in time given by the nanoseconds since the start of 1970.
def clockReading (nanos : Nat) : String :=
  let seconds := nanos / nanosPerSecond
  Instant.textOf (Day.after (seconds / secondsPerDay))
    (TimeOfDay.ofSeconds (seconds % secondsPerDay) (nanos % nanosPerSecond))

def PropertyStatus.label : PropertyStatus → String
  | .generated => "Generated"
  | .failed => "Failed"
  | .skipped => "Skipped"

def PropertyStatus.ofLabel? (label : String) : Option PropertyStatus :=
  [.generated, .failed, .skipped].find? (·.label == label)

def Outcome.label : Outcome → String
  | .finish => "Finish"
  | .error => "Error"

def Outcome.ofLabel? (label : String) : Option Outcome := [.finish, .error].find? (·.label == label)

open JsonValue Reader

def ReportEntry.toJson (e : ReportEntry) : JsonValue :=
  .object [("name", .text e.name), ("status", .text e.status.label),
    ("value", ofOption .text e.value), ("error", ofOption .text e.error)]

def Summary.toJson (s : Summary) : JsonValue :=
  .object [("total_properties", .number s.total), ("generated_properties", .number s.generated),
    ("failed_properties", .number s.failed), ("skipped_properties", .number s.skipped)]

def durationJson (nanos : Nat) : JsonValue :=
  .object [("secs", .number (nanos / nanosPerSecond)), ("nanos", .number (nanos % nanosPerSecond))]

-- The report as a document. A report that is not complete has no end and no duration.
def Report.toJson (r : Report) (stamp : Stamp) : JsonValue :=
  .object [
    ("run_id", .text stamp.run), ("process", .text r.process),
    ("start_time", .text (clockReading stamp.start)),
    ("end_time", if r.isComplete then .text (clockReading stamp.finish) else .null),
    ("duration", if r.isComplete then durationJson (stamp.finish - stamp.start) else .null),
    ("outcome", .text r.outcome.label),
    ("properties", .list (r.entries.map ReportEntry.toJson)),
    ("summary", r.summary.toJson)]

-- What a document says about a run: its name, the texts of its start and its end, the nanoseconds
-- between them, and its report.
structure Record where
  run : String
  start : String
  finish : Option String
  duration : Option Nat
  report : Report
deriving DecidableEq, Repr

-- What the document of a report is to say.
def Report.recorded (r : Report) (stamp : Stamp) : Record where
  run := stamp.run
  start := clockReading stamp.start
  finish := if r.isComplete then some (clockReading stamp.finish) else none
  duration := if r.isComplete then some (stamp.finish - stamp.start) else none
  report := r

section

variable {σ : Type} (r : Reader σ) (node : σ)

def PropertyStatus.read : Except Mismatch PropertyStatus :=
  expect "a status" ((r.word node).bind ofLabel?)

def Outcome.read : Except Mismatch Outcome := expect "an outcome" ((r.word node).bind ofLabel?)

def ReportEntry.read : Except Mismatch ReportEntry := do
  let fields ← r.readFields node
  return {
    name := ← required fields ["name"] r.readText
    status := ← required fields ["status"] (PropertyStatus.read r)
    value := ← optional fields ["value"] none r.readOptionalText
    error := ← optional fields ["error"] none r.readOptionalText }

def Summary.read : Except Mismatch Summary := do
  let fields ← r.readFields node
  return {
    total := ← required fields ["total_properties"] r.readNatural
    generated := ← required fields ["generated_properties"] r.readNatural
    failed := ← required fields ["failed_properties"] r.readNatural
    skipped := ← required fields ["skipped_properties"] r.readNatural }

def readDuration : Except Mismatch Nat := do
  let fields ← r.readFields node
  let seconds ← required fields ["secs"] r.readNatural
  let nanos ← required fields ["nanos"] r.readNatural
  return seconds * nanosPerSecond + nanos

-- Reads what a document says. Its report is complete where it says when the run ended.
def Record.read : Except Mismatch Record := do
  let fields ← r.readFields node
  let finish ← optional fields ["end_time"] none r.readOptionalText
  return {
    run := ← required fields ["run_id"] r.readText
    start := ← required fields ["start_time"] r.readText
    finish
    duration := ← optional fields ["duration"] none (r.readOptional (readDuration r))
    report := {
      process := ← required fields ["process"] r.readText
      entries := ← required fields ["properties"] (r.readList (ReportEntry.read r))
      outcome := ← required fields ["outcome"] (Outcome.read r)
      summary := ← required fields ["summary"] (Summary.read r)
      isComplete := finish.isSome } }

end

def Record.ofText? (text : String) : Option Record :=
  (JsonValue.ofText? text).bind fun v => (Record.read JsonValue.reader v).toOption

end PropertyTemplates
