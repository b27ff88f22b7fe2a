import PropertyTemplates.Pattern.Replace
import PropertyTemplates.Rule.Replacement

namespace PropertyTemplates

-- Every match of the pattern is replaced.
structure Rule where
  pattern : String
  replacement : String
deriving DecidableEq, Repr

-- Why a rule cannot be applied to any text.
inductive RuleError where
  | badPattern (pattern : String) (cause : Pattern.PatternError)
  | badReplacement (replacement : String) (cause : ReplacementError)
deriving DecidableEq, Repr

def RuleError.message : RuleError → String
  | .badPattern pattern cause => "Invalid regex pattern '" ++ pattern ++ "': " ++ cause.message
  | .badReplacement replacement cause =>
    "Invalid replacement '" ++ replacement ++ "': " ++ cause.message

-- A rule that has been read: its pattern, and its replacement in printed form.
structure CompiledRule where
  pattern : Pattern
  template : List Char

namespace CompiledRule

-- What the group of a name has matched.
def namedGroup (r : CompiledRule) (m : Pattern.Match) (text : List Char) (name : String) :
    List Char :=
  match r.pattern.expr.groups.find? fun (_, n) => n == some name with
  | some (index, _) => m.group text index
  | none => []

-- What replaces a match.
def put (r : CompiledRule) (m : Pattern.Match) (text : List Char) : List Char :=
  Replacement.expand (m.group text) (r.namedGroup m text) r.template

def apply (r : CompiledRule) (text : String) : String :=
  String.ofList (r.pattern.replaceAll r.put text.toList)

end CompiledRule

namespace Rule

def readPattern (r : Rule) : Except RuleError Pattern :=
  (Pattern.parse r.pattern).mapError (.badPattern r.pattern)

-- Reads the replacement for a pattern.
def readReplacement (r : Rule) (p : Pattern) : Except RuleError (List ReplacementItem) :=
  (Replacement.read p.groupCount p.groupNames r.replacement.toList).mapError
    (.badReplacement r.replacement)

-- Reads a rule. A rule that cannot be read is refused whatever the text is.
def compile (r : Rule) : Except RuleError CompiledRule := do
  let pattern ← r.readPattern
  let items ← r.readReplacement pattern
  return ⟨pattern, Replacement.print items⟩

def apply (r : Rule) (text : String) : Except RuleError String := do
  return (← r.compile).apply text

-- Applies rules in order; each sees what the one before has made.
def applyAll : List Rule → String → Except RuleError String
  | [], text => .ok text
  | r :: rules, text => do applyAll rules (← r.apply text)

end Rule

end PropertyTemplates
