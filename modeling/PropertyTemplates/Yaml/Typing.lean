import PropertyTemplates.Data.Reader
import PropertyTemplates.Decimal.Reading
import PropertyTemplates.Yaml.Node

namespace PropertyTemplates.Yaml

open Decimal

def isNullWord (text : String) : Bool := ["null", "Null", "NULL", "~"].contains text

def booleanWord? (text : String) : Option Bool :=
  if ["true", "True", "TRUE"].contains text then some true
  else if ["false", "False", "FALSE"].contains text then some false
  else none

-- The number that digits of a base denote.
def digitsValue? (base : Nat) (digits : List Char) : Option Nat :=
  if digits.isEmpty then none
  else digits.foldlM (fun n c => do
    let d ← Text.hexValue? c
    if d < base then some (base * n + d) else none) 0

-- Digits with a zero in front are no number.
def isZeroFilled (digits : List Char) : Bool :=
  match digits with
  | '0' :: d :: rest => (d :: rest).all isDigit
  | _ => false

-- A whole number: a sign, which base it is written in, and digits.
def wholeNumber? (text : List Char) : Option Int :=
  let (negative, body) := splitSign text
  let magnitude := match body with
    | '0' :: 'x' :: digits => digitsValue? 16 digits
    | '0' :: 'o' :: digits => digitsValue? 8 digits
    | '0' :: 'b' :: digits => digitsValue? 2 digits
    | digits => if isZeroFilled digits then none else digitsValue? 10 digits
  magnitude.map fun n => if negative then -(n : Int) else n

-- A number with a fraction or a power of ten, or one of the words for the special ones. What would
-- be infinite is no number.
def fractionalNumber? (text : List Char) : Option Float :=
  let (negative, body) := splitSign text
  match String.ofList body with
  | ".inf" | ".Inf" | ".INF" => some (if negative then -1.0 / 0.0 else 1.0 / 0.0)
  | ".nan" | ".NaN" | ".NAN" => if body.length = text.length then some (0.0 / 0.0) else none
  | _ =>
    match float? text with
    | some x => if x.isFinite then some x else none
    | none => none

-- Whole numbers within these bounds are integers of a document. What lies between them and the
-- wider ones is refused, and beyond those a number counts as fractional.
def integerBounds : Int × Int := (-0x8000000000000000, 0xFFFFFFFFFFFFFFFF)

def refusedBounds : Int × Int :=
  (-0x80000000000000000000000000000000, 0xFFFFFFFFFFFFFFFFFFFFFFFFFFFFFFFF)

def within (n : Int) (bounds : Int × Int) : Bool := bounds.1 ≤ n && n ≤ bounds.2

-- The untyped node that a plain scalar without a tag stands for.
def plainData (text : String) : Except Mismatch Data :=
  if text.isEmpty || isNullWord text then .ok .null
  else match booleanWord? text with
    | some b => .ok (.boolean b)
    | none =>
      let asFraction : Data :=
        if isZeroFilled (splitSign text.toList).2 then .text text
        else match fractionalNumber? text.toList with
          | some x => .float x
          | none => .text text
      match wholeNumber? text.toList with
      | some n =>
        if within n integerBounds then .ok (.integer n)
        else if within n refusedBounds then .error (.expected "a smaller integer")
        else .ok asFraction
      | none => .ok asFraction

def coreTag (name : String) : String := "tag:yaml.org,2002:" ++ name

def expectWord (kind : String) : Option Data → Except Mismatch Data := Reader.expect kind

-- The untyped node of a scalar. A tag of the core schema asks for its kind.
def scalarData (tag : Option String) (isPlain : Bool) (text : String) : Except Mismatch Data :=
  match tag with
  | none => if isPlain then plainData text else .ok (.text text)
  | some tag =>
    if tag = coreTag "bool" then expectWord "a boolean" ((booleanWord? text).map .boolean)
    else if tag = coreTag "int" then
      expectWord "an integer" (match plainData text with
        | .ok (.integer n) => some (.integer n)
        | _ => none)
    else if tag = coreTag "float" then
      expectWord "a float" (match fractionalNumber? text.toList with
        | some x => some (.float x)
        | none => none)
    else if tag = coreTag "null" then
      expectWord "null" (if isNullWord text then some .null else none)
    else .ok (.text text)

-- A tag of the document's own: what follows its exclamation mark.
def ownTag? (tag : Option String) : Option String :=
  match tag with
  | some tag =>
    match tag.toList with
    | '!' :: c :: rest => some (String.ofList (c :: rest))
    | _ => none
  | none => none

mutual

-- Whether two untyped nodes are the same key. The order of a table does not matter, and a float
-- that is no number is the same as itself.
def sameData : Data → Data → Bool
  | .null, .null => true
  | .boolean a, .boolean b => a == b
  | .integer a, .integer b => a == b
  | .float a, .float b => a == b || (a.isNaN && b.isNaN)
  | .text a, .text b => a == b
  | .list as, .list bs => sameItems as bs
  | .table as, .table bs => as.length == bs.length && sameEntries as bs
  | .tagged s a, .tagged t b => s == t && sameData a b
  | _, _ => false

def sameItems : List Data → List Data → Bool
  | [], [] => true
  | a :: as, b :: bs => sameData a b && sameItems as bs
  | _, _ => false

def sameEntries : List (Data × Data) → List (Data × Data) → Bool
  | [], _ => true
  | (k, v) :: as, bs => bs.any (fun (l, w) => sameData k l && sameData v w) && sameEntries as bs

end

-- Adds an entry in front of others. A key may not be repeated.
def addEntry (key value : Data) (entries : List (Data × Data)) :
    Except Mismatch (List (Data × Data)) :=
  if entries.any fun (k, _) => sameData key k then .error (.repeated "of a table")
  else .ok ((key, value) :: entries)

-- Nodes that are nested more deeply have no untyped form.
def maxDepth : Nat := 128

def tagData (tag : Option String) (d : Data) : Data :=
  match ownTag? tag with
  | some tag => .tagged ("!" ++ tag) d
  | none => d

mutual

-- The untyped form of a node that may be nested to the given depth.
def dataOf (depth : Nat) : Node → Except Mismatch Data
  | .scalar tag isPlain text =>
    match ownTag? tag with
    | some name => do
      let d ← if isPlain then plainData text else .ok (.text text)
      return .tagged ("!" ++ name) d
    | none => scalarData tag isPlain text
  | .list tag items =>
    match depth with
    | 0 => .error (.expected "fewer levels")
    | depth + 1 => do return tagData tag (.list (← itemsOf depth items))
  | .table tag entries =>
    match depth with
    | 0 => .error (.expected "fewer levels")
    | depth + 1 => do return tagData tag (.table (← entriesOf depth entries))
  | .endless => .error (.expected "a finite node")

def itemsOf (depth : Nat) : List Node → Except Mismatch (List Data)
  | [] => .ok []
  | item :: items => do
    let d ← dataOf depth item
    return d :: (← itemsOf depth items)

def entriesOf (depth : Nat) : List (Node × Node) → Except Mismatch (List (Data × Data))
  | [] => .ok []
  | (key, value) :: entries => do
    let k ← dataOf depth key
    let v ← dataOf depth value
    addEntry k v (← entriesOf depth entries)

end

namespace Node

def toData (n : Node) : Except Mismatch Data := dataOf maxDepth n

def isMissing : Node → Bool
  | .scalar _ isPlain text => isPlain && text.isEmpty
  | _ => false

-- Nodes of a document answer by their text: any scalar is a text, and a missing node is an empty
-- list or table.
def reader : Reader Node where
  text
    | .scalar _ _ text => some text
    | _ => none
  integer
    | .scalar _ true text => wholeNumber? text.toList
    | _ => none
  boolean
    | .scalar _ true text => booleanWord? text
    | _ => none
  word
    | .scalar tag isPlain text =>
      match ownTag? tag with
      | some word => if isPlain && (text.isEmpty || isNullWord text) then some word else none
      | none => some text
    | _ => none
  absent
    | .scalar none true text => text.isEmpty || isNullWord text
    | .scalar (some tag) true text => tag == coreTag "null" && isNullWord text
    | _ => false
  items
    | .list _ items => some items
    | node => if node.isMissing then some [] else none
  fields
    | .table _ entries => entries.mapM fun (key, value) =>
        match key with
        | .scalar _ _ name => some (name, value)
        | _ => none
    | node => if node.isMissing then some [] else none

end Node

end PropertyTemplates.Yaml
