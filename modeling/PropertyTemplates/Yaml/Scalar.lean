import PropertyTemplates.Text.Quoted
import PropertyTemplates.Yaml.Glyph

namespace PropertyTemplates.Yaml

open Glyph

-- The signs that mean something between the brackets of a flow collection.
def isFlowSign (c : Char) : Bool :=
  c == ',' || c == '[' || c == ']' || c == '{' || c == '}'

-- A colon that ends a plain scalar.
def atValueSign : List Glyph → Bool
  | g :: rest => g.char == ':' && atGap rest
  | [] => false

-- Reads the rest of a plain scalar; the text and the gap so far are reversed. The gap in which it
-- ends is given back. Outside of flow collections its lines stand at the given column or behind it.
def readPlain (inFlow : Bool) (column : Nat) (text : List Char) (gap : Gap) :
    List Glyph → Except YamlError (List Char × Gap × List Glyph)
  | [] => .ok (text.reverse, gap, [])
  | g :: rest =>
    if isSpaceOrTab g.char then
      if gap.hasLines && g.char == '\t' && g.column < column then .error .tabIndentation
      else readPlain inFlow column text (gap.addSpace g.char) rest
    else if isBreak g.char then readPlain inFlow column text (gap.addBreak g.char) rest
    else
      let stop := .ok (text.reverse, gap, g :: rest)
      if gap != .none && ((!inFlow && g.column < column) || g.char == '#') then stop
      else if atDocumentMark (g :: rest) then stop
      else if inFlow && g.char == ':' && satisfies (fun c => isFlowSign c || c == '?') rest then
        .error .unexpectedColon
      else if atValueSign (g :: rest) || (inFlow && isFlowSign g.char) then stop
      else readPlain inFlow column (g.char :: (gap.text ++ text)) .none rest

-- Reads the rest of a scalar in single quotes. The flag says that the last character was a quote,
-- which ends the scalar unless another one follows.
def readSingle (text : List Char) (gap : Gap) (quote : Bool) :
    List Glyph → Except YamlError (List Char × List Glyph)
  | [] => if quote then .ok (text.reverse, []) else .error .unclosedQuote
  | g :: rest =>
    if quote then
      if g.char = '\'' then readSingle ('\'' :: text) .none false rest
      else .ok (text.reverse, g :: rest)
    else if isSpaceOrTab g.char then readSingle text (gap.addSpace g.char) false rest
    else if isBreak g.char then readSingle text (gap.addBreak g.char) false rest
    else if atDocumentMark (g :: rest) then .error .documentMark
    else if g.char = '\'' then readSingle (gap.text ++ text) .none true rest
    else readSingle (g.char :: (gap.text ++ text)) .none false rest

-- How far an escape in double quotes has been read.
inductive Escape where
  | none
  | begun
  | hex (missing : Nat) (value : Nat)
deriving DecidableEq, Repr

-- The characters that one letter stands for.
def escaped? : Char → Option Char
  | '0' => some '\x00'
  | 'a' => some '\x07'
  | 'b' => some '\x08'
  | 't' | '\t' => some '\t'
  | 'n' => some '\n'
  | 'v' => some '\x0b'
  | 'f' => some '\x0c'
  | 'r' => some '\r'
  | 'e' => some '\x1b'
  | ' ' => some ' '
  | '"' => some '"'
  | '/' => some '/'
  | '\\' => some '\\'
  | 'N' => some '\u0085'
  | '_' => some '\u00a0'
  | 'L' => some '\u2028'
  | 'P' => some '\u2029'
  | _ => none

-- The number of digits after a letter that announces the number of a character.
def hexLength? : Char → Option Nat
  | 'x' => some 2
  | 'u' => some 4
  | 'U' => some 8
  | _ => none

-- Reads the rest of a scalar in double quotes.
def readDouble (text : List Char) (gap : Gap) (escape : Escape) :
    List Glyph → Except YamlError (List Char × List Glyph)
  | [] => .error .unclosedQuote
  | g :: rest =>
    match escape with
    | .begun =>
      if isBreak g.char then readDouble text (.lines none []) .none rest
      else match escaped? g.char, hexLength? g.char with
        | some c, _ => readDouble (c :: text) .none .none rest
        | none, some n => readDouble text .none (.hex n 0) rest
        | none, none => .error .badEscape
    | .hex missing value =>
      match Text.hexValue? g.char with
      | none => .error .badEscape
      | some digit =>
        let value := 16 * value + digit
        if 1 < missing then readDouble text .none (.hex (missing - 1) value) rest
        else if value.isValidChar then readDouble (Char.ofNat value :: text) .none .none rest
        else .error .badEscape
    | .none =>
      if isSpaceOrTab g.char then readDouble text (gap.addSpace g.char) .none rest
      else if isBreak g.char then readDouble text (gap.addBreak g.char) .none rest
      else if atDocumentMark (g :: rest) then .error .documentMark
      else if g.char = '"' then .ok ((gap.text ++ text).reverse, rest)
      else if g.char = '\\' then readDouble (gap.text ++ text) .none .begun rest
      else readDouble (g.char :: (gap.text ++ text)) .none .none rest

-- What happens to the line ends behind a block scalar.
inductive Chomping where
  | strip
  | clip
  | keep
deriving DecidableEq, Repr

-- How a block scalar is read.
structure BlockHeader where
  folded : Bool
  chomping : Chomping := .clip
  -- The indentation beyond that of the collection around the scalar, if it is given.
  increment : Option Nat := none
deriving DecidableEq, Repr

def chomping? : Char → Option Chomping
  | '+' => some .keep
  | '-' => some .strip
  | _ => none

-- Reads the signs behind the one that starts a block scalar, in either order, each at most once.
def readHeader (h : BlockHeader) (gs : List Glyph) : Except YamlError (BlockHeader × List Glyph) :=
  match gs with
  | a :: rest =>
    match chomping? a.char, a.char.isDigit with
    | some chomping, _ =>
      let h := { h with chomping }
      match rest with
      | b :: after =>
        if b.char = '0' then .error .badBlockHeader
        else if b.char.isDigit then
          .ok ({ h with increment := some (b.char.toNat - '0'.toNat) }, after)
        else .ok (h, rest)
      | [] => .ok (h, [])
    | none, true =>
      if a.char = '0' then .error .badBlockHeader
      else
        let h := { h with increment := some (a.char.toNat - '0'.toNat) }
        match rest with
        | b :: after =>
          match chomping? b.char with
          | some chomping => .ok ({ h with chomping }, after)
          | none => .ok (h, rest)
        | [] => .ok (h, [])
    | none, false => .ok (h, gs)
  | [] => .ok (h, [])

-- Reads empty lines in front of a block scalar whose indentation is not given: the widest of them
-- and the first other line determine it. Line ends are reversed.
def readMargin (widest : Nat) (breaks : List Char) :
    List Glyph → Except YamlError (Nat × List Char × List Glyph)
  | [] => .ok (widest, breaks, [])
  | g :: rest =>
    let widest := max widest g.column
    if g.char = ' ' then readMargin widest breaks rest
    else if g.char = '\t' then .error .tabIndentation
    else if isBreak g.char then readMargin widest (g.char :: breaks) rest
    else .ok (widest, breaks, g :: rest)

-- A block scalar that is being read. Lists are reversed.
structure BlockText where
  text : List Char := []
  -- The end of the last line that is not empty, and those of the empty lines after it.
  lineEnd : Option Char := none
  emptyLines : List Char := []
  -- The last line started with white space.
  indented : Bool := false
  inLine : Bool := false

namespace BlockText

-- Starts a line. Lines are joined by a space if the scalar is folded and neither starts with white
-- space.
def startLine (b : BlockText) (folded : Bool) (c : Char) : BlockText :=
  let indented := isSpaceOrTab c
  let joined :=
    if folded && b.lineEnd == some '\n' && !b.indented && !indented then
      if b.emptyLines.isEmpty then ' ' :: b.text else b.text
    else b.lineEnd.toList ++ b.text
  { text := c :: (b.emptyLines ++ joined), indented, inLine := true }

def finish (b : BlockText) (chomping : Chomping) : List Char :=
  let text := match chomping with
    | .strip => b.text
    | .clip => b.lineEnd.toList ++ b.text
    | .keep => b.emptyLines ++ (b.lineEnd.toList ++ b.text)
  text.reverse

end BlockText

-- Reads the lines of a block scalar, which start at the given column.
def readLines (h : BlockHeader) (column : Nat) (b : BlockText) :
    List Glyph → Except YamlError (List Char × List Glyph)
  | [] => .ok (b.finish h.chomping, [])
  | g :: rest =>
    if b.inLine then
      if isBreak g.char then
        readLines h column { b with lineEnd := some g.char, inLine := false } rest
      else readLines h column { b with text := g.char :: b.text } rest
    else if g.column < column && g.char == ' ' then readLines h column b rest
    else if g.column < column && g.char == '\t' then .error .tabIndentation
    else if isBreak g.char then
      readLines h column { b with emptyLines := g.char :: b.emptyLines } rest
    else if g.column = column then readLines h column (b.startLine h.folded g.char) rest
    else .ok (b.finish h.chomping, g :: rest)

-- Reads a block scalar after the sign that starts it. Its lines stand at the given column or behind
-- it.
def readBlock (folded : Bool) (column : Nat) (gs : List Glyph) :
    Except YamlError (List Char × List Glyph) := do
  let (h, gs) ← readHeader { folded } gs
  let gs := skipSpaces gs
  let gs := if satisfies (· == '#') gs then skipLine gs else gs
  if !(gs.isEmpty || satisfies isBreak gs) then .error .badBlockHeader
  else
    let gs := gs.drop 1
    match h.increment with
    | some n => readLines h (column - 1 + n) {} gs
    | none => do
      let (widest, breaks, gs) ← readMargin 0 [] gs
      readLines h (max (max widest column) 1) { emptyLines := breaks } gs

end PropertyTemplates.Yaml
