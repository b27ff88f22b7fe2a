import PropertyTemplates.Proofs.Except
import PropertyTemplates.Path.Evaluate
import PropertyTemplates.Work.Document

namespace PropertyTemplates

namespace Object

def toData : Object → Data
  | .process p => p.toData
  | .project p => p.toData
  | .step s => s.toData
  | .user u => u.toData
  | .property p => p.toData
  | .table entries => .table entries

-- An object as the table that it is written as.
def untyped (o : Object) : Object := (tableOfData? o.toData).getD o

theorem tableOfData?_toData (o : Object) : tableOfData? o.toData = some o.untyped := by
  cases o <;> rfl

end Object

namespace Value

mutual

-- A value with its objects as tables.
def untyped : Value → Value
  | .object o => .object o.untyped
  | .list items => .list (untypedItems items)
  | value => value

def untypedItems : List Value → List Value
  | [] => []
  | item :: items => untyped item :: untypedItems items

end

theorem untypedItems_eq_map (items : List Value) : untypedItems items = items.map untyped := by
  induction items with
  | nil => rfl
  | cons item items ih => rw [untypedItems, ih, List.map_cons]

theorem ofItems_eq_map (items : List Data) : ofItems items = items.map ofData := by
  induction items with
  | nil => rfl
  | cons item items ih => rw [ofItems, ih, List.map_cons]

mutual

-- What an untyped node gives has nothing typed in it.
theorem untyped_ofData : ∀ d : Data, (ofData d).untyped = ofData d
  | .null | .boolean _ | .float _ | .text _ => rfl
  | .integer n => by
      unfold ofData ofInteger
      split <;> rfl
  | .list items => by
      unfold ofData untyped
      rw [untypedItems_ofItems items]
  | .table entries => rfl
  | .tagged _ d => by
      unfold ofData
      exact untyped_ofData d

theorem untypedItems_ofItems : ∀ items : List Data, untypedItems (ofItems items) = ofItems items
  | [] => rfl
  | item :: items => by
      rw [ofItems, untypedItems, untyped_ofData item, untypedItems_ofItems items]

end

theorem ofData_toData (o : Object) : ofData o.toData = (object o).untyped := by
  cases o <;> rfl

theorem ofData_ofOption {α : Type} {write : α → Data} {wrap : α → Value}
    (h : ∀ a, ofData (write a) = (wrap a).untyped) (o : Option α) :
    ofData (.ofOption write o) = (ofOption wrap o).untyped := by
  cases o with
  | none => rfl
  | some a => exact h a

theorem ofData_list {α : Type} {write : α → Data} {wrap : α → Value}
    (h : ∀ a, ofData (write a) = (wrap a).untyped) (items : List α) :
    ofData (.list (items.map write)) = (list (items.map wrap)).untyped := by
  simp only [ofData, untyped, ofItems_eq_map, untypedItems_eq_map, List.map_map, list.injEq]
  exact List.map_congr_left fun a _ => h a

@[simp] theorem ofData_text (s : String) : ofData (.text s) = (text s).untyped := rfl

@[simp] theorem ofData_boolean (b : Bool) : ofData (.boolean b) = (boolean b).untyped := rfl

@[simp] theorem ofData_int64 (n : Int64) : ofData (.integer n.toInt) = (integer n.toInt).untyped := by
  have hfits : FitsWord n.toInt := ⟨n.le_toInt, n.toInt_lt⟩
  exact if_pos hfits

@[simp] theorem ofData_int32 (n : Int32) : ofData (.integer n.toInt) = (integer n.toInt).untyped := by
  have hlow := n.le_toInt
  have hhigh := n.toInt_lt
  have hfits : FitsWord n.toInt := by
    unfold FitsWord
    omega
  exact if_pos hfits

end Value

namespace Object

-- The names by which the fields of the objects are written.
def fieldNames : List String :=
  ["id", "titel", "projekt", "schritte", "eigenschaften", "erstellungsdatum", "istTemplate",
    "reihenfolge", "bearbeitungsstatus", "bearbeitungsbenutzer", "bearbeitungsbeginn",
    "bearbeitungsende", "login", "vorname", "nachname", "standort", "email", "name", "value"]

-- The accessors that have no field of their name, or yield something else than what is written.
def typedAccessors : List String :=
  ["properties", "bearbeitungsstatus", "bearbeitungsstatusEnum", "erstellungsdatum",
    "bearbeitungsbeginn", "bearbeitungsende", "nachVorname", "propertyName", "propertyValue"]

theorem lowerFirst_fieldName : ∀ name ∈ fieldNames, Text.lowerFirst name = name := by
  decide +kernel

theorem entryNamed?_cons (key : String) (value : Data) (entries : List (Data × Data))
    (name : String) :
    entryNamed? ((.text key, value) :: entries) name =
      if Text.lowerFirst key = name then some value else entryNamed? entries name := by
  simp only [entryNamed?, List.findSome?_cons, Data.text?, Data.untagged]
  split <;> simp_all

theorem lookup_fields (n : String) (value : Data) (fields : List (String × Data)) (name : String) :
    ((n, value) :: fields).lookup name = if name = n then some value else fields.lookup name := by
  by_cases h : name = n
  · simp [h]
  · rw [List.lookup_cons, beq_false_of_ne h, if_neg h]

-- Looking a field up in a table that is written under field names is looking it up by its name.
theorem access_fields (fields : List (String × Data)) (name : String)
    (h : ∀ f ∈ fields, f.1 ∈ fieldNames) :
    (table (fields.map fun (n, value) => (.text n, value))).access name =
      (fields.lookup name).map Value.ofData := by
  have hentry : entryNamed? (fields.map fun (n, value) => (.text n, value)) name =
      fields.lookup name := by
    induction fields with
    | nil => rfl
    | cons f fields ih =>
        obtain ⟨n, value⟩ := f
        have hname : Text.lowerFirst n = n := lowerFirst_fieldName n (h (n, value) (by simp))
        rw [List.map_cons, entryNamed?_cons, hname, lookup_fields,
          ih fun g hg => h g (List.mem_cons_of_mem _ hg)]
        simp only [eq_comm]
  rw [← hentry]
  rfl

-- On the names that are written, an object and its table yield the same. The two differ on typed
-- accessors only: the table has no such field, or it holds the value in another form.
theorem access_untyped {name : String} (o : Object) (h : name ∉ typedAccessors) :
    o.untyped.access name = (o.access name).map Value.untyped := by
  cases o with
  | table entries =>
      change (entryNamed? entries name).map Value.ofData =
        ((entryNamed? entries name).map Value.ofData).map Value.untyped
      rw [Option.map_map]
      congr 1
      funext d
      exact (Value.untyped_ofData d).symm
  | process p =>
      have hproject : Value.ofData (.ofOption Project.toData p.project) =
          (Value.ofOption (.object ∘ project) p.project).untyped :=
        Value.ofData_ofOption (fun q => Value.ofData_toData (.project q)) p.project
      have hsteps : Value.ofData (.list (p.steps.map Step.toData)) =
          (Value.list (p.steps.map (.object ∘ step))).untyped :=
        Value.ofData_list (fun q => Value.ofData_toData (.step q)) p.steps
      have hproperties : Value.ofData (.list (p.properties.map Property.toData)) =
          (Value.list (p.properties.map (.object ∘ property))).untyped :=
        Value.ofData_list (fun q => Value.ofData_toData (.property q)) p.properties
      refine (access_fields _ name (by simp [fieldNames])).trans ?_
      simp only [access]
      split <;> simp_all [lookup_fields, typedAccessors]
  | project p =>
      refine (access_fields _ name (by simp [fieldNames])).trans ?_
      simp only [access]
      split <;> simp_all [lookup_fields, typedAccessors]
  | step s =>
      have heditor : Value.ofData (.ofOption User.toData s.editor) =
          (Value.ofOption (.object ∘ user) s.editor).untyped :=
        Value.ofData_ofOption (fun q => Value.ofData_toData (.user q)) s.editor
      refine (access_fields _ name (by simp [fieldNames])).trans ?_
      simp only [access]
      split <;> simp_all [lookup_fields, typedAccessors]
  | user u =>
      have hoption : ∀ t : Option String, Value.ofData (.ofOption .text t) =
          (Value.ofOption .text t).untyped := Value.ofData_ofOption Value.ofData_text
      refine (access_fields _ name (by simp [fieldNames])).trans ?_
      simp only [access]
      split <;> simp_all [lookup_fields, typedAccessors]
  | property p =>
      refine (access_fields _ name (by simp [fieldNames])).trans ?_
      simp only [access]
      split <;> simp_all [lookup_fields, typedAccessors]

end Object

end PropertyTemplates
