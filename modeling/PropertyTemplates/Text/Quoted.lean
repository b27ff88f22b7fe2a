import PropertyTemplates.Text.Property

namespace PropertyTemplates.Text

-- A number in base sixteen with small letters.
def hexNumeral (n : Nat) : List Char := Nat.toDigits 16 n

-- The value of a digit in base sixteen.
def hexValue? (c : Char) : Option Nat :=
  if '0' ≤ c ∧ c ≤ '9' then some (c.toNat - '0'.toNat)
  else if 'a' ≤ c ∧ c ≤ 'f' then some (c.toNat - 'a'.toNat + 10)
  else if 'A' ≤ c ∧ c ≤ 'F' then some (c.toNat - 'A'.toNat + 10)
  else none

-- The character with the number that digits in base sixteen give.
def hexChar? (digits : List Char) : Option Char := do
  let values ← digits.mapM hexValue?
  let n := values.foldl (fun n d => 16 * n + d) 0
  if digits ≠ [] ∧ n.isValidChar then some (Char.ofNat n) else none

-- Whether a character shows by itself: neither a separator other than the plain space, nor a
-- control, format, private, surrogate or unassigned character.
def isVisible (c : Char) : Bool :=
  match category c with
  | .control | .format | .surrogate | .privateUse | .unassigned | .lineSeparator
  | .paragraphSeparator => false
  | .spaceSeparator => c == ' '
  | _ => true

-- How a character is written between quotes: the usual short escapes, and the code point of a
-- character that does not show or that extends the one before it.
def escaped (c : Char) : List Char :=
  if c = '\x00' then ['\\', '0']
  else if c = '\t' then ['\\', 't']
  else if c = '\r' then ['\\', 'r']
  else if c = '\n' then ['\\', 'n']
  else if c = '"' then ['\\', '"']
  else if c = '\\' then ['\\', '\\']
  else if isGraphemeExtend c || !isVisible c then
    '\\' :: 'u' :: '{' :: hexNumeral c.toNat ++ ['}']
  else [c]

-- A text between double quotes with every special character escaped.
def quoted (s : String) : String := String.ofList ('"' :: s.toList.flatMap escaped ++ ['"'])

end PropertyTemplates.Text
