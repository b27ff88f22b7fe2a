import PropertyTemplates.Data.Reader
import PropertyTemplates.Work.Basic

namespace PropertyTemplates

open Reader

namespace Instant

def read {σ : Type} (r : Reader σ) (node : σ) : Except Mismatch Instant := do
  expect "a date and time" (parse (← r.readText node))

end Instant

def readId {σ : Type} (r : Reader σ) (node : σ) : Except Mismatch Int64 :=
  (r.readInteger 0x8000000000000000 node).map Int64.ofInt

def readOrder {σ : Type} (r : Reader σ) (node : σ) : Except Mismatch Int32 :=
  (r.readInteger 0x80000000 node).map Int32.ofInt

def StepStatus.read {σ : Type} (r : Reader σ) (node : σ) : Except Mismatch StepStatus :=
  expect "a status" ((r.word node).bind ofWord?)

def Project.read {σ : Type} (r : Reader σ) (node : σ) : Except Mismatch Project := do
  let fields ← r.readFields node
  return {
    id := ← optional fields ["id"] 0 (readId r)
    title := ← required fields ["titel"] r.readText }

def User.read {σ : Type} (r : Reader σ) (node : σ) : Except Mismatch User := do
  let fields ← r.readFields node
  return {
    id := ← optional fields ["id"] 0 (readId r)
    login := ← optional fields ["login"] "" r.readText
    firstName := ← optional fields ["vorname"] "" r.readText
    lastName := ← optional fields ["nachname"] "" r.readText
    location := ← optional fields ["standort"] none (readOptionalText r)
    email := ← optional fields ["email"] none (readOptionalText r) }

def Step.read {σ : Type} (r : Reader σ) (node : σ) : Except Mismatch Step := do
  let fields ← r.readFields node
  let instant := r.readOptional (Instant.read r)
  return {
    id := ← optional fields ["id"] 0 (readId r)
    title := ← required fields ["titel"] r.readText
    order := ← optional fields ["reihenfolge"] 0 (readOrder r)
    status := ← optional fields ["bearbeitungsstatus"] .locked (StepStatus.read r)
    editor := ← optional fields ["bearbeitungsbenutzer"] none (r.readOptional (User.read r))
    startedAt := ← optional fields ["bearbeitungsbeginn"] none instant
    finishedAt := ← optional fields ["bearbeitungsende"] none instant }

def Property.read {σ : Type} (r : Reader σ) (node : σ) : Except Mismatch Property := do
  let fields ← r.readFields node
  return {
    name := ← required fields ["name", "titel"] r.readText
    value := ← optional fields ["value", "wert"] "" r.readText }

-- Reads a snapshot of a process. Unknown fields are passed over.
def WorkProcess.read {σ : Type} (r : Reader σ) (node : σ) : Except Mismatch WorkProcess := do
  let fields ← r.readFields node
  return {
    id := ← optional fields ["id"] 0 (readId r)
    title := ← required fields ["titel"] r.readText
    project := ← optional fields ["projekt"] none (r.readOptional (Project.read r))
    steps := ← optional fields ["schritte"] [] (r.readList (Step.read r))
    properties := ← optional fields ["eigenschaften", "properties"] []
      (r.readList (Property.read r))
    createdAt := ← optional fields ["erstellungsdatum"] none (r.readOptional (Instant.read r))
    isTemplate := ← optional fields ["istTemplate"] false r.readBoolean }

-- A table whose keys are the given names.
def Data.ofFields (fields : List (String × Data)) : Data :=
  .table (fields.map fun (name, value) => (.text name, value))

def Data.ofOption {α : Type} (write : α → Data) : Option α → Data
  | some value => write value
  | none => .null

def Instant.toData (i : Instant) : Data := .text i.toText

def Project.toData (p : Project) : Data :=
  .ofFields [("id", .integer p.id.toInt), ("titel", .text p.title)]

def User.toData (u : User) : Data :=
  .ofFields [
    ("id", .integer u.id.toInt),
    ("login", .text u.login),
    ("vorname", .text u.firstName),
    ("nachname", .text u.lastName),
    ("standort", .ofOption .text u.location),
    ("email", .ofOption .text u.email)]

def Step.toData (s : Step) : Data :=
  .ofFields [
    ("id", .integer s.id.toInt),
    ("titel", .text s.title),
    ("reihenfolge", .integer s.order.toInt),
    ("bearbeitungsstatus", .text s.status.word),
    ("bearbeitungsbenutzer", .ofOption User.toData s.editor),
    ("bearbeitungsbeginn", .ofOption Instant.toData s.startedAt),
    ("bearbeitungsende", .ofOption Instant.toData s.finishedAt)]

def Property.toData (p : Property) : Data :=
  .ofFields [("name", .text p.name), ("value", .text p.value)]

-- The untyped form of a process: every field under its own name, unset ones as null.
def WorkProcess.toData (p : WorkProcess) : Data :=
  .ofFields [
    ("id", .integer p.id.toInt),
    ("titel", .text p.title),
    ("projekt", .ofOption Project.toData p.project),
    ("schritte", .list (p.steps.map Step.toData)),
    ("eigenschaften", .list (p.properties.map Property.toData)),
    ("erstellungsdatum", .ofOption Instant.toData p.createdAt),
    ("istTemplate", .boolean p.isTemplate)]

end PropertyTemplates
