namespace PropertyTemplates

-- An untyped node of a snapshot. Tables keep their entries in order, and their keys may be nodes of
-- any kind; a tag labels a node without changing what it holds.
inductive Data where
  | null
  | boolean (value : Bool)
  | integer (value : Int)
  | float (value : Float)
  | text (value : String)
  | list (items : List Data)
  | table (entries : List (Data × Data))
  | tagged (tag : String) (value : Data)

namespace Data

-- The node under any tags.
def untagged : Data → Data
  | .tagged _ value => value.untagged
  | value => value

def text? (d : Data) : Option String :=
  match d.untagged with
  | .text s => some s
  | _ => none

end Data

end PropertyTemplates
