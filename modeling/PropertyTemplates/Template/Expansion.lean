import PropertyTemplates.Rule.Basic
import PropertyTemplates.Template.Placeholder

namespace PropertyTemplates

-- Why a template cannot be expanded.
inductive ExpansionError where
  | placeholder (cause : PlaceholderError)
  | rule (cause : RuleError)
deriving DecidableEq, Repr

def ExpansionError.message : ExpansionError → String
  | .placeholder cause => cause.message
  | .rule cause => cause.message

-- What lies at the bottom of an error, without the placeholder it was found in.
inductive RootCause where
  | path (cause : PathError)
  | loop (placeholder : String)
  | rule (cause : RuleError)
deriving DecidableEq, Repr

def PlaceholderError.rootCause : PlaceholderError → RootCause
  | .unresolved _ cause => .path cause
  | .loop placeholder => .loop placeholder

def ExpansionError.rootCause : ExpansionError → RootCause
  | .placeholder cause => cause.rootCause
  | .rule cause => .rule cause

-- Expands a template in three stages: placeholders are resolved against the root, the replacer puts
-- in its variables, and the rules are applied.
def expand (root : Object) (bound : Nat) (replacer : String → String) (rules : List Rule)
    (template : String) : Except ExpansionError String := do
  let resolved ← (resolvePlaceholders root bound template).mapError .placeholder
  (Rule.applyAll rules (replacer resolved)).mapError .rule

end PropertyTemplates
