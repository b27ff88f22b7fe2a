import PropertyTemplates.Configuration.Basic

namespace PropertyTemplates

open Decimal

-- What is legal in a configuration but probably a mistake.
inductive Warning where
  | duplicate (property : String) (count : Nat)
  | emptyTemplate (property : String)
  | unterminated (property template : String)
deriving DecidableEq, Repr

-- What is wrong with the path in a placeholder.
inductive PathFlaw where
  | unreadable (cause : PathError)
  | emptyAccessor
deriving DecidableEq, Repr

-- What makes a property fail whenever it is generated.
inductive Problem where
  | badPath (property placeholder : String) (flaw : PathFlaw)
  | badRule (rule : BadRule)
deriving DecidableEq, Repr

def Warning.message : Warning → String
  | .duplicate property count =>
    "Property '" ++ property ++ "' is defined " ++ String.ofList (numeral count) ++
      " times; the last definition wins"
  | .emptyTemplate property => "Property '" ++ property ++ "' has an empty template"
  | .unterminated property template =>
    "Property '" ++ property ++ "' has an unterminated placeholder in '" ++ template ++ "'"

def PathFlaw.message : PathFlaw → String
  | .unreadable cause => cause.message
  | .emptyAccessor => "empty accessor name"

def Problem.message : Problem → String
  | .badPath property placeholder flaw =>
    "Property '" ++ property ++ "' has an invalid path in '" ++ bracedText placeholder ++ "': " ++
      flaw.message
  | .badRule rule =>
    "Property '" ++ rule.property ++ "' has an invalid replace rule " ++
      String.ofList (numeral rule.position) ++ ": " ++ rule.cause.message

-- What has been found in a configuration, in the order of its definitions.
structure Inspection where
  problems : List Problem := []
  warnings : List Warning := []
deriving DecidableEq, Repr

namespace Inspection

-- A strict inspection does not accept warnings either.
def isValid (i : Inspection) (strict : Bool) : Bool :=
  i.problems.isEmpty && !(strict && !i.warnings.isEmpty)

def append (a b : Inspection) : Inspection :=
  ⟨a.problems ++ b.problems, a.warnings ++ b.warnings⟩

-- The names that are given more than once, in the order in which they first appear.
def duplicates (names : List String) : List Warning :=
  (names.eraseDups.filter fun n => 1 < names.count n).map fun n => .duplicate n (names.count n)

def hasOpening : List Char → Bool
  | '{' :: '{' :: _ => true
  | _ :: rest => hasOpening rest
  | [] => false

def templateWarnings (d : Definition) : List Warning :=
  if Text.isBlankText d.template then [.emptyTemplate d.name]
  else (tokenize d.template).filterMap fun
    | .literal text =>
      if hasOpening text.toList then some (.unterminated d.name d.template) else none
    | .placeholder _ => none

-- Looks for what is wrong with a path before there is a root.
def pathFlaw? (path : String) : Option PathFlaw :=
  match Path.parse path with
  | .error cause => some (.unreadable cause)
  | .ok p => if p.segments.any (·.accessor.isEmpty) then some .emptyAccessor else none

def pathProblems (d : Definition) : List Problem :=
  (tokenize d.template).filterMap fun
    | .literal _ => none
    | .placeholder inner => (pathFlaw? inner).map (.badPath d.name inner)

-- The rules from a position on that cannot be read.
def ruleProblems (property : String) (position : Nat) : List Rule → List Problem
  | [] => []
  | r :: rules =>
    match r.compile with
    | .error cause =>
      .badRule ⟨property, position, cause⟩ :: ruleProblems property (position + 1) rules
    | .ok _ => ruleProblems property (position + 1) rules

-- Inspects definitions that apply together.
def ofDefinitions (ds : List Definition) : Inspection where
  problems := ds.flatMap fun d => pathProblems d ++ ruleProblems d.name 0 d.rules
  warnings := duplicates (ds.map (·.name)) ++ ds.flatMap templateWarnings

-- Inspects sections one after the other.
def ofSections : List Section → Except ConfigurationError Inspection
  | [] => .ok {}
  | s :: rest => do
    let ds ← s.definitions
    return (ofDefinitions ds).append (← ofSections rest)

end Inspection

def Configuration.inspect (c : Configuration) : Except ConfigurationError Inspection :=
  Inspection.ofSections c.sections

end PropertyTemplates
