import PropertyTemplates.Variables

namespace PropertyTemplates

-- A text that does not assign a value to a name.
structure BadAssignment where
  text : String
deriving DecidableEq, Repr

def BadAssignment.message (e : BadAssignment) : String :=
  "Invalid variable format '" ++ e.text ++ "'. Expected 'key=value'"

-- The name and the value in an assignment, which its first equals sign separates.
def splitAssignment : List Char → Option (List Char × List Char)
  | [] => none
  | c :: rest =>
    if c = '=' then some ([], rest)
    else (splitAssignment rest).map fun (name, value) => (c :: name, value)

def readAssignment (text : String) : Except BadAssignment (String × String) :=
  match splitAssignment text.toList with
  | some (name, value) => .ok (String.ofList name, String.ofList value)
  | none => .error ⟨text⟩

-- Variables from assignments, of which a later one overrides an earlier one.
def Variables.ofAssignments (texts : List String) : Except BadAssignment Variables :=
  (texts.mapM readAssignment).map Variables.ofList

end PropertyTemplates
