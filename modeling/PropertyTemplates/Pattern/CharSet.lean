import PropertyTemplates.Text.Fold
import PropertyTemplates.Text.Property
import PropertyTemplates.Text.Script

namespace PropertyTemplates.Pattern

open Text

-- A set of characters, as patterns describe it.
inductive CharSet where
  | range (first last : Nat)
  -- The three classes that have a letter of their own.
  | digit
  | blank
  | word
  | categories (members : List Category)
  | scriptOf (code : String)
  | binary (property : String)
  | union (a b : CharSet)
  | inter (a b : CharSet)
  | diff (a b : CharSet)
  | symmDiff (a b : CharSet)
  | compl (a : CharSet)
  -- The characters that equal a member when case does not matter.
  | folded (a : CharSet)
  -- The same, where case is known for the Latin letters of ASCII only.
  | asciiFolded (a : CharSet)
deriving DecidableEq, Repr

namespace CharSet

def swapAsciiCase (c : Char) : Char := if c.isUpper then c.toLower else c.toUpper

def contains : CharSet → Char → Bool
  | .range first last, c => first ≤ c.toNat && c.toNat ≤ last
  | .digit, c => if c.toNat < 128 then c.isDigit else category c == .decimalNumber
  | .blank, c => isBlank c
  | .word, c => isWordCharacter c
  | .categories members, c => members.contains (category c)
  | .scriptOf code, c => script c == code
  | .binary property, c =>
    match binaryProperties.lookup property with
    | some test => test c
    | none => false
  | .union a b, c => a.contains c || b.contains c
  | .inter a b, c => a.contains c && b.contains c
  | .diff a b, c => a.contains c && !b.contains c
  | .symmDiff a b, c => a.contains c != b.contains c
  | .compl a, c => !a.contains c
  | .folded a, c => (caseVariants c).any a.contains
  | .asciiFolded a, c => a.contains c || a.contains (swapAsciiCase c)

def single (c : Char) : CharSet := .range c.toNat c.toNat

def all : CharSet := .range 0 0x10ffff

def none : CharSet := .compl all

def ofRanges : List (Nat × Nat) → CharSet
  | [] => none
  | [(first, last)] => .range first last
  | (first, last) :: rest => .union (.range first last) (ofRanges rest)

-- Everything but the line feed; also but the carriage return where both end a line.
def notLineEnd (carriageReturn : Bool) : CharSet :=
  .compl (if carriageReturn then .union (single '\n') (single '\r') else single '\n')

-- The classes of ASCII characters that have a name.
def asciiClass? : String → Option CharSet
  | "alnum" => some (ofRanges [(0x30, 0x39), (0x41, 0x5a), (0x61, 0x7a)])
  | "alpha" => some (ofRanges [(0x41, 0x5a), (0x61, 0x7a)])
  | "ascii" => some (.range 0 0x7f)
  | "blank" => some (ofRanges [(0x09, 0x09), (0x20, 0x20)])
  | "cntrl" => some (ofRanges [(0x00, 0x1f), (0x7f, 0x7f)])
  | "digit" => some (.range 0x30 0x39)
  | "graph" => some (.range 0x21 0x7e)
  | "lower" => some (.range 0x61 0x7a)
  | "print" => some (.range 0x20 0x7e)
  | "punct" => some (ofRanges [(0x21, 0x2f), (0x3a, 0x40), (0x5b, 0x60), (0x7b, 0x7e)])
  | "space" => some (ofRanges [(0x09, 0x0d), (0x20, 0x20)])
  | "upper" => some (.range 0x41 0x5a)
  | "word" => some (ofRanges [(0x30, 0x39), (0x41, 0x5a), (0x5f, 0x5f), (0x61, 0x7a)])
  | "xdigit" => some (ofRanges [(0x30, 0x39), (0x41, 0x46), (0x61, 0x66)])
  | _ => Option.none

end CharSet

end PropertyTemplates.Pattern
