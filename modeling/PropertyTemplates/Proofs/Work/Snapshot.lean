import PropertyTemplates.Proofs.Except
import PropertyTemplates.Proofs.Instant.Text
import PropertyTemplates.Work.Snapshot
import PropertyTemplates.Path.Evaluate

namespace PropertyTemplates

open Reader

section Reader

variable {α : Type} {read : Data → Except Mismatch α} {write : α → Data}

theorem readFields_ofFields (fields : List (String × Data)) :
    Data.reader.readFields (.ofFields fields) = .ok fields := by
  have hkeys : (fields.map fun f => (Data.text f.1, f.2)).mapM
      (fun entry => entry.1.text?.map (·, entry.2)) = some fields := by
    induction fields with
    | nil => rfl
    | cons f fields ih =>
        rw [List.map_cons, List.mapM_cons, ih]
        rfl
  rw [readFields, Data.ofFields]
  exact congrArg (expect "a table") hkeys

@[simp] theorem readText_text (s : String) : Data.reader.readText (.text s) = .ok s := rfl

@[simp] theorem readBoolean_boolean (b : Bool) : Data.reader.readBoolean (.boolean b) = .ok b := rfl

@[simp] theorem readId_integer (n : Int64) : readId Data.reader (.integer n.toInt) = .ok n := by
  have hfits : -(0x8000000000000000 : Nat) ≤ n.toInt ∧ n.toInt < (0x8000000000000000 : Nat) :=
    ⟨n.le_toInt, n.toInt_lt⟩
  have hread : Data.reader.readInteger 0x8000000000000000 (.integer n.toInt) = .ok n.toInt :=
    if_pos hfits
  rw [readId, hread]
  exact congrArg Except.ok n.ofInt_toInt

@[simp] theorem readOrder_integer (n : Int32) :
    readOrder Data.reader (.integer n.toInt) = .ok n := by
  have hfits : -(0x80000000 : Nat) ≤ n.toInt ∧ n.toInt < (0x80000000 : Nat) :=
    ⟨n.le_toInt, n.toInt_lt⟩
  have hread : Data.reader.readInteger 0x80000000 (.integer n.toInt) = .ok n.toInt :=
    if_pos hfits
  rw [readOrder, hread]
  exact congrArg Except.ok n.ofInt_toInt

-- Null is read as an unset value, and only null is.
theorem readOptional_ofOption (h : ∀ a, read (write a) = .ok a)
    (hpresent : ∀ a, Data.reader.absent (write a) = false) (o : Option α) :
    Data.reader.readOptional read (.ofOption write o) = .ok o := by
  cases o with
  | none => rfl
  | some a =>
      rw [readOptional, Data.ofOption, hpresent a, h a]
      rfl

theorem readList_map (h : ∀ a, read (write a) = .ok a) (items : List α) :
    Data.reader.readList read (.list (items.map write)) = .ok items :=
  Except.mapM_map_eq_ok h items

end Reader

@[simp] theorem StepStatus.read_word (s : StepStatus) :
    StepStatus.read Data.reader (.text s.word) = .ok s := by
  cases s <;> rfl

theorem Instant.read_toData (i : Instant) : Instant.read Data.reader i.toData = .ok i := by
  rw [Instant.read, Instant.toData, readText_text, Except.ok_bind, Instant.parse_toText]
  rfl

theorem readOptionalText_ofOption (t : Option String) :
    readOptionalText Data.reader (.ofOption .text t) = .ok t :=
  readOptional_ofOption readText_text (fun _ => rfl) t

theorem Project.read_toData (p : Project) : Project.read Data.reader p.toData = .ok p := by
  rw [Project.read, Project.toData, readFields_ofFields]
  simp [optional, required, field?]

theorem User.read_toData (u : User) : User.read Data.reader u.toData = .ok u := by
  rw [User.read, User.toData, readFields_ofFields]
  simp [optional, field?, readOptionalText_ofOption]

theorem Property.read_toData (p : Property) : Property.read Data.reader p.toData = .ok p := by
  rw [Property.read, Property.toData, readFields_ofFields]
  simp [optional, required, field?]

theorem Step.read_toData (s : Step) : Step.read Data.reader s.toData = .ok s := by
  have heditor := readOptional_ofOption User.read_toData (fun _ => rfl) s.editor
  have hinstant := readOptional_ofOption Instant.read_toData (fun _ => rfl)
  rw [Step.read, Step.toData, readFields_ofFields]
  simp [optional, required, field?, heditor, hinstant]

theorem WorkProcess.read_toData (p : WorkProcess) :
    WorkProcess.read Data.reader p.toData = .ok p := by
  have hproject := readOptional_ofOption Project.read_toData (fun _ => rfl) p.project
  have hcreated := readOptional_ofOption Instant.read_toData (fun _ => rfl) p.createdAt
  have hsteps := readList_map Step.read_toData p.steps
  have hproperties := readList_map Property.read_toData p.properties
  rw [WorkProcess.read, WorkProcess.toData, readFields_ofFields]
  simp [optional, required, field?, hproject, hcreated, hsteps, hproperties]

-- Reading undoes writing, for dates of every year. So no path tells the two processes apart.
theorem WorkProcess.read_inverts_toData (p : WorkProcess) :
    ∃ q, WorkProcess.read Data.reader p.toData = .ok q ∧ q = p ∧
      ∀ path, (Object.process q).evaluate path = (Object.process p).evaluate path :=
  ⟨p, p.read_toData, rfl, fun _ => rfl⟩

end PropertyTemplates
