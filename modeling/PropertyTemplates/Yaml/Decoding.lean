import PropertyTemplates.Yaml.Typing

namespace PropertyTemplates

-- Why a text does not describe what it should.
inductive DecodeError where
  | unreadable (cause : Yaml.YamlError)
  | mismatched (cause : Mismatch)
deriving DecidableEq, Repr

def DecodeError.message : DecodeError → String
  | .unreadable cause => cause.message
  | .mismatched cause => cause.message

namespace Yaml

-- Reads what the only document of a text describes. A text without a document is read as a missing
-- node.
def decode {α : Type} (read : Node → Except Mismatch α) (text : String) : Except DecodeError α := do
  let document ← (Node.ofText? text).mapError .unreadable
  (read (document.getD .missing)).mapError .mismatched

-- The entries of a document that is a table, untyped.
def readTable (node : Node) : Except Mismatch (List (Data × Data)) := do
  if node.isMissing then return []
  else match (← node.toData).untagged with
    | .table entries => return entries
    | _ => .error (.expected "a table")

end Yaml

end PropertyTemplates
