import PropertyTemplates.Data.Basic

namespace PropertyTemplates

-- What a typed reader may ask of a node, whatever form the node comes in. Each question has no
-- answer where the node is of another kind.
structure Reader (σ : Type) where
  text : σ → Option String
  integer : σ → Option Int
  boolean : σ → Option Bool
  -- The name of one of several fixed words.
  word : σ → Option String
  -- The node stands for nothing where a value is optional.
  absent : σ → Bool
  items : σ → Option (List σ)
  fields : σ → Option (List (String × σ))

-- Why a node does not have the shape that a typed reader asks for.
inductive Mismatch where
  | missing (field : String)
  | repeated (field : String)
  | expected (kind : String)
deriving DecidableEq, Repr

def Mismatch.message : Mismatch → String
  | .missing field => "missing field " ++ field
  | .repeated field => "field " ++ field ++ " is given more than once"
  | .expected kind => "expected " ++ kind

namespace Reader

variable {σ α : Type}

def expect (kind : String) : Option α → Except Mismatch α
  | some value => .ok value
  | none => .error (.expected kind)

def readText (r : Reader σ) (node : σ) : Except Mismatch String := expect "a text" (r.text node)

def readBoolean (r : Reader σ) (node : σ) : Except Mismatch Bool :=
  expect "a boolean" (r.boolean node)

-- An integer from -limit up to but not including limit.
def readInteger (r : Reader σ) (limit : Nat) (node : σ) : Except Mismatch Int :=
  match r.integer node with
  | some n =>
    if -(limit : Int) ≤ n ∧ n < (limit : Int) then .ok n
    else .error (.expected "a smaller integer")
  | none => .error (.expected "an integer")

def readNatural (r : Reader σ) (node : σ) : Except Mismatch Nat :=
  match r.integer node with
  | some (.ofNat n) => .ok n
  | _ => .error (.expected "a natural number")

def readOptional (r : Reader σ) (read : σ → Except Mismatch α) (node : σ) :
    Except Mismatch (Option α) :=
  if r.absent node then .ok none else (read node).map some

def readOptionalText (r : Reader σ) (node : σ) : Except Mismatch (Option String) :=
  r.readOptional r.readText node

def readList (r : Reader σ) (read : σ → Except Mismatch α) (node : σ) :
    Except Mismatch (List α) := do
  (← expect "a list" (r.items node)).mapM read

def readFields (r : Reader σ) (node : σ) : Except Mismatch (List (String × σ)) :=
  expect "a table" (r.fields node)

end Reader

-- The node given for a field under any of its names. Giving it twice is a mistake.
def field? {σ : Type} (fields : List (String × σ)) (names : List String) :
    Except Mismatch (Option σ) :=
  match fields.filter fun (name, _) => names.contains name with
  | [] => .ok none
  | [(_, node)] => .ok (some node)
  | (name, _) :: _ => .error (.repeated name)

-- A field that must be given.
def required {σ α : Type} (fields : List (String × σ)) (names : List String)
    (read : σ → Except Mismatch α) : Except Mismatch α := do
  match ← field? fields names with
  | some node => read node
  | none => .error (.missing (names.headD ""))

-- A field that stands for a default where it is not given.
def optional {σ α : Type} (fields : List (String × σ)) (names : List String) (default : α)
    (read : σ → Except Mismatch α) : Except Mismatch α := do
  match ← field? fields names with
  | some node => read node
  | none => .ok default

-- Untyped nodes answer strictly: a text is a text only, and null stands for an empty list. The tag
-- of a node may name a fixed word.
def Data.reader : Reader Data where
  text := Data.text?
  integer node := match node.untagged with
    | .integer n => some n
    | _ => none
  boolean node := match node.untagged with
    | .boolean b => some b
    | _ => none
  word node := match node with
    | .text s => some s
    | .tagged tag .null => some (String.ofList (tag.toList.dropWhile (· == '!')))
    | _ => none
  absent node := match node with
    | .null => true
    | _ => false
  items node := match node.untagged with
    | .list items => some items
    | .null => some []
    | _ => none
  fields node := match node.untagged with
    | .table entries => entries.mapM fun (key, value) => key.text?.map (·, value)
    | .null => some []
    | _ => none

end PropertyTemplates
