import PropertyTemplates.Yaml.Error

namespace PropertyTemplates.Yaml

-- A character and where it stands; lines and columns count from zero.
structure Glyph where
  char : Char
  line : Nat
  column : Nat
deriving DecidableEq, Repr

-- The characters that end lines. Other line ends have been replaced by line feeds.
def isBreak (c : Char) : Bool := c == '\n' || c == '\u2028' || c == '\u2029'

def isSpaceOrTab (c : Char) : Bool := c == ' ' || c == '\t'

-- Carriage returns, alone or with a line feed behind them, and next-line characters become line
-- feeds.
def normalBreaks : List Char → List Char
  | '\r' :: '\n' :: cs => '\n' :: normalBreaks cs
  | '\r' :: cs => '\n' :: normalBreaks cs
  | '\u0085' :: cs => '\n' :: normalBreaks cs
  | c :: cs => c :: normalBreaks cs
  | [] => []

-- The characters that may stand in a document.
def isPrintable (c : Char) : Bool :=
  let n := c.toNat
  n == 0x09 || n == 0x0a || n == 0x0d || (0x20 ≤ n && n ≤ 0x7e) || n == 0x85 ||
    (0xa0 ≤ n && n ≤ 0xd7ff) || (0xe000 ≤ n && n ≤ 0xfffd) || 0x10000 ≤ n

namespace Glyph

def placedFrom (line column : Nat) : List Char → List Glyph
  | [] => []
  | c :: cs =>
    ⟨c, line, column⟩ ::
      if isBreak c then placedFrom (line + 1) 0 cs else placedFrom line (column + 1) cs

def byteOrderMark : Char := '\uFEFF'

-- The characters of a text with their places. A mark of the byte order in front does not count.
def ofText (cs : List Char) : Except YamlError (List Glyph) :=
  match cs.find? (!isPrintable ·) with
  | some c => .error (.unprintable c)
  | none =>
    let cs := if cs.head? = some byteOrderMark then cs.drop 1 else cs
    .ok (placedFrom 0 0 (normalBreaks cs))

-- Whether a character satisfies a condition.
def satisfies (test : Char → Bool) : List Glyph → Bool
  | [] => false
  | g :: _ => test g.char

-- The text goes on with white space, a line end or not at all.
def atGap : List Glyph → Bool
  | [] => true
  | g :: _ => isSpaceOrTab g.char || isBreak g.char

-- A line starts with three times the same sign, and nothing follows it directly.
def atTripled (c : Char) : List Glyph → Bool
  | a :: b :: d :: rest =>
    a.column == 0 && a.char == c && b.char == c && d.char == c && atGap rest
  | _ => false

def atDocumentMark (gs : List Glyph) : Bool := atTripled '-' gs || atTripled '.' gs

def skipLine (gs : List Glyph) : List Glyph := gs.dropWhile (!isBreak ·.char)

def skipSpaces (gs : List Glyph) : List Glyph := gs.dropWhile (isSpaceOrTab ·.char)

-- The longest run of characters that satisfy a condition, and what follows it.
def run (test : Char → Bool) (gs : List Glyph) : List Char × List Glyph :=
  ((gs.takeWhile (test ·.char)).map (·.char), gs.dropWhile (test ·.char))

end Glyph

-- What stands between two visible characters of a scalar: white space on a line, or line ends. The
-- first line end may be escaped. Lists are reversed.
inductive Gap where
  | spaces (run : List Char)
  | lines (first : Option Char) (more : List Char)
deriving DecidableEq, Repr

namespace Gap

def none : Gap := .spaces []

def hasLines : Gap → Bool
  | .spaces _ => false
  | .lines _ _ => true

-- White space around line ends does not count.
def addSpace (c : Char) : Gap → Gap
  | .spaces run => .spaces (c :: run)
  | gap => gap

def addBreak (c : Char) : Gap → Gap
  | .spaces _ => .lines (some c) []
  | .lines first more => .lines first (c :: more)

-- The text of a gap, reversed. A single line feed is folded to a space, several lose the first.
def text : Gap → List Char
  | .spaces run => run
  | .lines (some '\n') [] => [' ']
  | .lines (some '\n') more => more
  | .lines (some c) more => more ++ [c]
  | .lines Option.none more => more

end Gap

end PropertyTemplates.Yaml
