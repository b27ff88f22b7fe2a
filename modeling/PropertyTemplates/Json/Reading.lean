import PropertyTemplates.Data.Reader
import PropertyTemplates.Json
import PropertyTemplates.Text.Quoted

namespace PropertyTemplates.JsonValue

open Decimal

-- The characters that may stand between the parts of a document.
def isGap (c : Char) : Bool := c == ' ' || c == '\n' || c == '\r' || c == '\t'

def skipGap (cs : List Char) : List Char := cs.dropWhile isGap

-- The character that a letter behind a backslash stands for.
def shortEscape? : Char → Option Char
  | '"' => some '"'
  | '\\' => some '\\'
  | '/' => some '/'
  | 'n' => some '\n'
  | 'r' => some '\r'
  | 't' => some '\t'
  | 'b' => some '\x08'
  | 'f' => some '\x0c'
  | _ => none

-- The character that stands for itself: neither a control character nor a backslash.
def plain? (c : Char) : Option Char := if c.toNat < 32 ∨ c = '\\' then none else some c

-- A character in front of a text that goes on.
def prepend? (c : Option Char) (text : Option (List Char × List Char)) :
    Option (List Char × List Char) := do
  let c ← c
  let (body, rest) ← text
  return (c :: body, rest)

-- The text up to the closing quote, and what follows the quote. The number of a character has four
-- digits; pairs of surrogates are not put together.
def textBody? : List Char → Option (List Char × List Char)
  | [] => none
  | '"' :: rest => some ([], rest)
  | '\\' :: 'u' :: a :: b :: c :: d :: rest =>
    prepend? (Text.hexChar? [a, b, c, d]) (textBody? rest)
  | '\\' :: letter :: rest => prepend? (shortEscape? letter) (textBody? rest)
  | c :: rest => prepend? (plain? c) (textBody? rest)

-- A text in quotes.
def quoted? (cs : List Char) : Option (String × List Char) :=
  match skipGap cs with
  | '"' :: rest => (textBody? rest).map fun (body, rest) => (String.ofList body, rest)
  | _ => none

-- The numeral of a number.
def number? (cs : List Char) : Option (Nat × List Char) :=
  let run := cs.takeWhile isDigit
  if run = numeral (value run) then some (value run, cs.dropWhile isDigit) else none

section

variable {α : Type}

-- What a field is called, and what is read behind its colon.
def field? (read : List Char → Option (α × List Char)) (cs : List Char) :
    Option ((String × α) × List Char) := do
  let (name, rest) ← quoted? cs
  match skipGap rest with
  | ':' :: rest => (read rest).map fun (value, rest) => ((name, value), rest)
  | _ => none

-- At most so many members with commas between them, up to the closing bracket.
def members? (read : List Char → Option (α × List Char)) (closing : Char) :
    Nat → List Char → Option (List α × List Char)
  | 0, _ => none
  | most + 1, cs => do
    let (member, rest) ← read cs
    match skipGap rest with
    | [] => none
    | c :: rest =>
      if c = closing then some ([member], rest)
      else if c = ',' then
        (members? read closing most rest).map fun (members, rest) => (member :: members, rest)
      else none

-- The members behind an opening bracket. There are fewer than the text has characters.
def block? (read : List Char → Option (α × List Char)) (closing : Char) (cs : List Char) :
    Option (List α × List Char) :=
  match skipGap cs with
  | [] => none
  | c :: rest => if c = closing then some ([], rest) else members? read closing cs.length cs

end

-- The document at the front of a text, which may be nested to a depth, and what follows it.
def read? : Nat → List Char → Option (JsonValue × List Char)
  | 0, _ => none
  | depth + 1, cs =>
    match skipGap cs with
    | '"' :: rest => (textBody? rest).map fun (body, rest) => (.text (String.ofList body), rest)
    | '[' :: rest => (block? (read? depth) ']' rest).map fun (items, rest) => (.list items, rest)
    | '{' :: rest =>
      (block? (field? (read? depth)) '}' rest).map fun (fields, rest) => (.object fields, rest)
    | 'n' :: 'u' :: 'l' :: 'l' :: rest => some (.null, rest)
    | rest => (number? rest).map fun (n, rest) => (.number n, rest)

-- Reads a document of texts, natural numbers, lists and objects. No text is nested deeper than it
-- is long.
def ofText? (s : String) : Option JsonValue :=
  match read? s.length s.toList with
  | some (v, rest) => if (skipGap rest).isEmpty then some v else none
  | none => none

def reader : Reader JsonValue where
  text v := match v with
    | .text s => some s
    | _ => none
  integer v := match v with
    | .number n => some n
    | _ => none
  boolean _ := none
  word v := match v with
    | .text s => some s
    | _ => none
  absent v := match v with
    | .null => true
    | _ => false
  items v := match v with
    | .list items => some items
    | _ => none
  fields v := match v with
    | .object fields => some fields
    | _ => none

end PropertyTemplates.JsonValue
