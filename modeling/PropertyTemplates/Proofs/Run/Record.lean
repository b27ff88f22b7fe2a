import PropertyTemplates.Proofs.Except
import PropertyTemplates.Proofs.Json.RoundTrip
import PropertyTemplates.Run.Record

namespace PropertyTemplates

open JsonValue

section Reader

variable {α : Type} {read : JsonValue → Except Mismatch α} {write : α → JsonValue}

@[simp] theorem JsonValue.readFields_object (fields : List (String × JsonValue)) :
    reader.readFields (.object fields) = .ok fields := rfl

@[simp] theorem JsonValue.readText_text (s : String) : reader.readText (.text s) = .ok s := rfl

@[simp] theorem JsonValue.readNatural_number (n : Nat) :
    reader.readNatural (.number n) = .ok n := rfl

@[simp] theorem JsonValue.readOptional_null : reader.readOptional read .null = .ok none := rfl

@[simp] theorem JsonValue.readOptionalText_null : reader.readOptionalText .null = .ok none := rfl

@[simp] theorem JsonValue.readOptionalText_text (s : String) :
    reader.readOptionalText (.text s) = .ok (some s) := rfl

@[simp] theorem JsonValue.readOptionalText_ofOption (t : Option String) :
    reader.readOptionalText (ofOption .text t) = .ok t := by
  cases t <;> rfl

theorem JsonValue.readList_map (h : ∀ a, read (write a) = .ok a) (items : List α) :
    reader.readList read (.list (items.map write)) = .ok items :=
  Except.mapM_map_eq_ok h items

end Reader

@[simp] theorem PropertyStatus.read_label (s : PropertyStatus) :
    PropertyStatus.read reader (.text s.label) = .ok s := by
  cases s <;> rfl

@[simp] theorem Outcome.read_label (o : Outcome) : Outcome.read reader (.text o.label) = .ok o := by
  cases o <;> rfl

theorem ReportEntry.read_toJson (e : ReportEntry) : ReportEntry.read reader e.toJson = .ok e := by
  simp [ReportEntry.read, ReportEntry.toJson, required, optional, field?]

@[simp] theorem Summary.read_toJson (s : Summary) : Summary.read reader s.toJson = .ok s := by
  simp [Summary.read, Summary.toJson, required, field?]

@[simp] theorem readDuration_durationJson (nanos : Nat) :
    reader.readOptional (readDuration reader) (durationJson nanos) = .ok (some nanos) := by
  have hread : readDuration reader (durationJson nanos) = .ok nanos := by
    simp [readDuration, durationJson, required, field?, Nat.div_add_mod']
  exact congrArg (Except.map some) hread

theorem Record.read_toJson (r : Report) (stamp : Stamp) :
    Record.read reader (r.toJson stamp) = .ok (r.recorded stamp) := by
  have hentries := JsonValue.readList_map ReportEntry.read_toJson r.entries
  obtain ⟨process, entries, outcome, summary, isComplete⟩ := r
  cases isComplete <;>
    simp [Record.read, Report.toJson, Report.recorded, required, optional, field?, hentries]

-- The document of a report says what the report says, and when the run started and ended.
theorem Record.ofText?_toJson (r : Report) (stamp : Stamp) :
    Record.ofText? (r.toJson stamp).toText = some (r.recorded stamp) := by
  rw [Record.ofText?, ofText?_toText, Option.bind_some, Record.read_toJson]
  rfl

end PropertyTemplates
