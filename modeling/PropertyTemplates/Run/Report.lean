namespace PropertyTemplates

-- What became of a property.
inductive PropertyStatus where
  | generated
  | failed
  | skipped
deriving DecidableEq, Repr

inductive Outcome where
  | finish
  | error
deriving DecidableEq, Repr

-- What a run reports about a property: its value if it was generated, the error if it failed.
structure ReportEntry where
  name : String
  status : PropertyStatus
  value : Option String := none
  error : Option String := none
deriving DecidableEq, Repr

-- The numbers of properties by status.
structure Summary where
  total : Nat := 0
  generated : Nat := 0
  failed : Nat := 0
  skipped : Nat := 0
deriving DecidableEq, Repr

-- What a run did. The outcome and the summary are those of the last completion.
structure Report where
  process : String
  entries : List ReportEntry := []
  outcome : Outcome := .finish
  summary : Summary := {}
  isComplete : Bool := false
deriving DecidableEq, Repr

def PropertyStatus.word : PropertyStatus → String
  | .generated => "generated"
  | .failed => "failed"
  | .skipped => "skipped"

def Outcome.word : Outcome → String
  | .finish => "finish"
  | .error => "error"

namespace ReportEntry

def generated (name value : String) : ReportEntry := { name, status := .generated, value }

def failed (name error : String) : ReportEntry := { name, status := .failed, error }

def skipped (name : String) : ReportEntry := { name, status := .skipped }

end ReportEntry

def Summary.ofEntries (entries : List ReportEntry) : Summary where
  total := entries.length
  generated := entries.countP (·.status = .generated)
  failed := entries.countP (·.status = .failed)
  skipped := entries.countP (·.status = .skipped)

namespace Report

def add (r : Report) (e : ReportEntry) : Report := { r with entries := r.entries ++ [e] }

def hasFailures (r : Report) : Bool := r.entries.any (·.status = .failed)

def complete (r : Report) : Report :=
  { r with
    outcome := if r.hasFailures then .error else .finish
    summary := .ofEntries r.entries
    isComplete := true }

-- The value generated for a name; of several the last.
def valueOf (r : Report) (name : String) : Option String :=
  r.entries.reverse.findSome? fun e => if e.name = name then e.value else none

-- The name of the property that failed, and why.
def failure? (r : Report) : Option (String × String) :=
  r.entries.findSome? fun e => e.error.map (e.name, ·)

end Report

end PropertyTemplates
