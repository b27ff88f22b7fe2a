import PropertyTemplates.Definition.Basic

namespace PropertyTemplates

-- The entries that apply to some projects and steps.
structure Section where
  projects : List String
  steps : List String
  entries : List Entry
deriving DecidableEq, Repr

structure Configuration where
  sections : List Section
deriving DecidableEq, Repr

-- Why a configuration cannot be used.
inductive ConfigurationError where
  -- The file cannot be read; the cause is the system's own text.
  | unreadable (cause : String)
  -- The text is not a configuration; the cause says where it goes wrong.
  | malformed (cause : String)
  | noSections
  | incomplete (cause : EntryError)
  | noMatchingSection (project step : String)
  | badRule (cause : BadRule)
deriving DecidableEq, Repr

def ConfigurationError.message : ConfigurationError → String
  | .unreadable cause => "Failed to read plugin configuration: " ++ cause
  | .malformed cause => "Failed to parse YAML: " ++ cause
  | .noSections => "Invalid configuration format: at least one config section is required"
  | .incomplete cause => "Missing required field: " ++ cause.field
  | .noMatchingSection project step =>
    "No configuration section matches project '" ++ project ++ "' and step '" ++ step ++ "'"
  | .badRule cause =>
    "Invalid replace rule " ++ String.ofList (Decimal.numeral cause.position) ++ " of property '" ++
      cause.property ++ "': " ++ cause.cause.message

-- Stands for any project or step.
def wildcard : String := "*"

-- The first of the elements with the greatest rank. Elements without a rank do not count.
def firstBest {α : Type} (rank : α → Option Nat) : List α → Option α
  | [] => none
  | x :: xs =>
    match rank x with
    | none => firstBest rank xs
    | some r =>
      match firstBest rank xs with
      | none => some x
      | some best => if (rank best).any (r < ·) then some best else some x

namespace Section

def applies (s : Section) (project step : String) : Bool :=
  (s.projects.contains project || s.projects.contains wildcard) &&
    (s.steps.contains step || s.steps.contains wildcard)

-- How well a section that applies fits. A project named by the section counts more than a step.
def rank (s : Section) (project step : String) : Option Nat :=
  if s.applies project step then
    some ((if s.projects.contains project then 2 else 0) + if s.steps.contains step then 1 else 0)
  else none

def definitions (s : Section) : Except ConfigurationError (List Definition) :=
  (Definition.ofEntries s.entries).mapError .incomplete

end Section

namespace Configuration

-- The section that fits a project and a step best; of equals, the first.
def sectionFor (c : Configuration) (project step : String) : Except ConfigurationError Section :=
  match firstBest (·.rank project step) c.sections with
  | some s => .ok s
  | none => .error (.noMatchingSection project step)

-- The number of that section, counted from zero.
def sectionNumber? (c : Configuration) (project step : String) : Option Nat :=
  (firstBest (fun (s, _) => s.rank project step) c.sections.zipIdx).map (·.2)

def definitionsFor (c : Configuration) (project step : String) :
    Except ConfigurationError (List Definition) := do
  (← c.sectionFor project step).definitions

end Configuration

end PropertyTemplates
