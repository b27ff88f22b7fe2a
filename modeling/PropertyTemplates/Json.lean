import PropertyTemplates.Decimal.Numeral

namespace PropertyTemplates

-- A document in JSON, its fields in the order in which they are written.
inductive JsonValue where
  | null
  | number (n : Nat)
  | text (s : String)
  | list (items : List JsonValue)
  | object (fields : List (String × JsonValue))

namespace JsonValue

-- How a character stands between quotes. Control characters have a short escape or four digits.
def escaped (c : Char) : List Char :=
  if c = '"' then ['\\', '"']
  else if c = '\\' then ['\\', '\\']
  else if c = '\n' then ['\\', 'n']
  else if c = '\r' then ['\\', 'r']
  else if c = '\t' then ['\\', 't']
  else if c = '\x08' then ['\\', 'b']
  else if c = '\x0c' then ['\\', 'f']
  else if c.toNat < 32 then
    ['\\', 'u', '0', '0', Nat.digitChar (c.toNat / 16), Nat.digitChar (c.toNat % 16)]
  else [c]

def quote (s : String) : List Char := '"' :: s.toList.flatMap escaped ++ ['"']

-- A new line at a depth of nesting, two blanks for each level.
def newLine (depth : Nat) : List Char := '\n' :: List.replicate (2 * depth) ' '

-- Members between brackets, each on a line of its own.
def block (opening closing : Char) (depth : Nat) (members : List (List Char)) : List Char :=
  if members.isEmpty then [opening, closing]
  else opening :: List.intercalate [','] (members.map (newLine (depth + 1) ++ ·)) ++
    newLine depth ++ [closing]

mutual

-- The text of a document that stands at a depth of nesting.
def print (depth : Nat) : JsonValue → List Char
  | .null => "null".toList
  | .number n => Decimal.numeral n
  | .text s => quote s
  | .list items => block '[' ']' depth (printItems (depth + 1) items)
  | .object fields => block '{' '}' depth (printFields (depth + 1) fields)

def printItems (depth : Nat) : List JsonValue → List (List Char)
  | [] => []
  | item :: items => print depth item :: printItems depth items

def printFields (depth : Nat) : List (String × JsonValue) → List (List Char)
  | [] => []
  | (name, value) :: fields =>
    (quote name ++ ':' :: ' ' :: print depth value) :: printFields depth fields

end

def toText (v : JsonValue) : String := String.ofList (print 0 v)

def ofOption {α : Type} (f : α → JsonValue) : Option α → JsonValue
  | some x => f x
  | none => .null

end JsonValue

end PropertyTemplates
