import PropertyTemplates.Path.Evaluate
import PropertyTemplates.Template.Token

namespace PropertyTemplates

-- Why the placeholders of a template cannot be replaced.
inductive PlaceholderError where
  -- The path of a placeholder does not lead to a value.
  | unresolved (placeholder : String) (cause : PathError)
  -- A placeholder keeps coming back.
  | loop (placeholder : String)
deriving DecidableEq, Repr

-- A placeholder in its written form.
def bracedText (placeholder : String) : String := (Token.placeholder placeholder).print

def PlaceholderError.message : PlaceholderError → String
  | .unresolved placeholder cause =>
    "Failed to resolve placeholder '" ++ bracedText placeholder ++ "': " ++ cause.message
  | .loop placeholder =>
    "Placeholder '" ++ bracedText placeholder ++ "' keeps reappearing after substitution"

-- What replaces a placeholder whose path ends at an absent value.
def absentText : String := "null"

-- The rounds after which an expansion counts as endless unless another bound is given.
def defaultRounds : Nat := 16

-- The text that replaces a placeholder.
def resolve (root : Object) (inner : String) : Except PlaceholderError String :=
  match root.evaluate inner with
  | .ok text => .ok (text.getD absentText)
  | .error cause => .error (.unresolved inner cause)

-- The text that replaces a placeholder in one round. A text that holds the placeholder itself would
-- bring it back for ever.
def substitute (root : Object) (inner : String) : Except PlaceholderError String := do
  let text ← resolve root inner
  if .placeholder inner ∈ tokenize text then .error (.loop inner) else .ok text

-- The texts found so far in a round, by placeholder.
abbrev Resolved := List (String × String)

-- Replaces the placeholders among tokens from left to right, looking each one up only once.
def substituteTokens (root : Object) : Resolved → List Token → Except PlaceholderError String
  | _, [] => .ok ""
  | found, .literal text :: tokens => return text ++ (← substituteTokens root found tokens)
  | found, .placeholder inner :: tokens =>
    match found.lookup inner with
    | some text => return text ++ (← substituteTokens root found tokens)
    | none => do
      let text ← substitute root inner
      return text ++ (← substituteTokens root ((inner, text) :: found) tokens)

-- One round of substitution over a whole text.
def substituteRound (root : Object) (text : String) : Except PlaceholderError String :=
  substituteTokens root [] (tokenize text)

-- Substitutes round by round until no placeholder is left, for at most the given number of rounds.
def resolveRounds (root : Object) : Nat → String → Except PlaceholderError String
  | 0, text =>
    match firstPlaceholder? text with
    | some placeholder => .error (.loop placeholder)
    | none => .ok text
  | rounds + 1, text =>
    if hasPlaceholders text then do resolveRounds root rounds (← substituteRound root text)
    else .ok text

-- Replaces the placeholders of a template, and those of the texts put in. A bound of no rounds
-- counts as one.
def resolvePlaceholders (root : Object) (bound : Nat) (template : String) :
    Except PlaceholderError String :=
  resolveRounds root (max bound 1) template

end PropertyTemplates
