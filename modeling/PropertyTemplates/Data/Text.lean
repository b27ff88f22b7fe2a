import PropertyTemplates.Data.Basic
import PropertyTemplates.Decimal.FloatText

namespace PropertyTemplates

open Decimal

-- The integers that fit into 64 bits with a sign.
def FitsWord (n : Int) : Prop := -0x8000000000000000 ≤ n ∧ n < 0x8000000000000000

instance (n : Int) : Decidable (FitsWord n) := by unfold FitsWord; infer_instance

def integerText (n : Int) : String :=
  String.ofList (if n < 0 then '-' :: numeral n.natAbs else numeral n.natAbs)

def booleanText (b : Bool) : String := if b then "true" else "false"

def floatText (x : Float) : String := Layout.plain.float x

-- Elements between brackets, separated by a comma and a space.
def listText (items : List String) : String := "[" ++ ", ".intercalate items ++ "]"

-- Entries between braces, separated by a comma and a space.
def tableText (entries : List String) : String :=
  "\x7b" ++ ", ".intercalate entries ++ "\x7d"

mutual

-- The text of a node. An integer that does not fit into 64 bits with a sign is shown as the float
-- nearest to it, and tags do not show.
def Data.render : Data → String
  | .null => "null"
  | .boolean b => booleanText b
  | .integer n => if FitsWord n then integerText n else floatText (Float.ofInt n)
  | .float x => floatText x
  | .text s => s
  | .list items => listText (renderItems items)
  | .table entries => tableText (renderEntries entries)
  | .tagged _ value => value.render

def Data.renderItems : List Data → List String
  | [] => []
  | item :: items => item.render :: Data.renderItems items

def Data.renderEntries : List (Data × Data) → List String
  | [] => []
  | (key, value) :: entries => (key.render ++ "=" ++ value.render) :: Data.renderEntries entries

end

end PropertyTemplates
