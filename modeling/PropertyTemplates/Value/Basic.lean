import PropertyTemplates.Data.Text
import PropertyTemplates.Text.Case
import PropertyTemplates.Work.Basic

namespace PropertyTemplates

-- What a path can walk through: a part of a typed snapshot, or a table of an untyped one.
inductive Object where
  | process (process : WorkProcess)
  | project (project : Project)
  | step (step : Step)
  | user (user : User)
  | property (property : Property)
  | table (entries : List (Data × Data))

-- What an accessor yields.
inductive Value where
  | null
  | text (value : String)
  | integer (value : Int)
  | float (value : Float)
  | boolean (value : Bool)
  | object (value : Object)
  | list (items : List Value)

namespace Value

def ofOption {α : Type} (wrap : α → Value) : Option α → Value
  | some value => wrap value
  | none => .null

def isNull : Value → Bool
  | .null => true
  | _ => false

-- An integer that does not fit into 64 bits with a sign becomes the float nearest to it.
def ofInteger (n : Int) : Value := if FitsWord n then .integer n else .float (Float.ofInt n)

mutual

-- The value of an untyped node; tags do not matter.
def ofData : Data → Value
  | .null => .null
  | .boolean b => .boolean b
  | .integer n => ofInteger n
  | .float x => .float x
  | .text s => .text s
  | .list items => .list (ofItems items)
  | .table entries => .object (.table entries)
  | .tagged _ value => ofData value

def ofItems : List Data → List Value
  | [] => []
  | item :: items => ofData item :: ofItems items

end

end Value

namespace Object

-- The name of an object's type, as error messages give it.
def typeName : Object → String
  | .process _ => "Process"
  | .project _ => "Project"
  | .step _ => "Step"
  | .user _ => "User"
  | .property _ => "ProcessProperty"
  | .table _ => "mapping"

-- The text of an object at the end of a path.
def render : Object → String
  | .process p => p.title
  | .project p => p.title
  | .step s => s.title
  | .user u => u.fullName
  | .property p => p.value
  | .table entries => tableText (Data.renderEntries entries)

def instantValue : Option Instant → Value := Value.ofOption fun i => .text i.display

-- The first entry of a table whose key is a text that names the accessor.
def entryNamed? (entries : List (Data × Data)) (name : String) : Option Data :=
  entries.findSome? fun (key, value) =>
    match key.text? with
    | some key => if Text.lowerFirst key = name then some value else none
    | none => none

-- What the accessor of a name yields, if the object has one. The name starts with a small letter.
def access : Object → String → Option Value
  | .process p, name =>
    match name with
    | "id" => some (.integer p.id.toInt)
    | "titel" => some (.text p.title)
    | "projekt" => some (.ofOption (.object ∘ .project) p.project)
    | "schritte" => some (.list (p.steps.map (.object ∘ .step)))
    | "eigenschaften" | "properties" => some (.list (p.properties.map (.object ∘ .property)))
    | "erstellungsdatum" => some (instantValue p.createdAt)
    | "istTemplate" => some (.boolean p.isTemplate)
    | _ => none
  | .project p, name =>
    match name with
    | "id" => some (.integer p.id.toInt)
    | "titel" => some (.text p.title)
    | _ => none
  | .step s, name =>
    match name with
    | "id" => some (.integer s.id.toInt)
    | "titel" => some (.text s.title)
    | "reihenfolge" => some (.integer s.order.toInt)
    | "bearbeitungsstatus" => some (.integer s.status.code)
    | "bearbeitungsstatusEnum" => some (.text s.status.word)
    | "bearbeitungsbenutzer" => some (.ofOption (.object ∘ .user) s.editor)
    | "bearbeitungsbeginn" => some (instantValue s.startedAt)
    | "bearbeitungsende" => some (instantValue s.finishedAt)
    | _ => none
  | .user u, name =>
    match name with
    | "id" => some (.integer u.id.toInt)
    | "login" => some (.text u.login)
    | "vorname" => some (.text u.firstName)
    | "nachname" => some (.text u.lastName)
    | "nachVorname" => some (.text u.fullName)
    | "standort" => some (.ofOption .text u.location)
    | "email" => some (.ofOption .text u.email)
    | _ => none
  | .property p, name =>
    match name with
    | "propertyName" | "name" => some (.text p.name)
    | "propertyValue" | "value" => some (.text p.value)
    | _ => none
  | .table entries, name => (entryNamed? entries name).map Value.ofData

end Object

end PropertyTemplates
