import PropertyTemplates.Decimal.Numeral
import PropertyTemplates.Pattern.Bracket

namespace PropertyTemplates

-- A pattern that can be searched for in a text.
structure Pattern where
  expr : Pattern.Expr
deriving DecidableEq, Repr

namespace Pattern

open Text

-- The greatest index of a group. The whole match is group 0 and does not count.
def groupCount (p : Pattern) : Nat := p.expr.groups.foldl (fun n g => max n g.1) 0

-- The names of the groups that have one, in the order of the groups.
def groupNames (p : Pattern) : List String := p.expr.groups.filterMap (·.2)

-- A part of a sequence that is being read, and how deeply it is nested. A setting of flags is a
-- part that cannot be repeated.
structure Part where
  expr : Expr
  depth : Nat := 0
  repeatable : Bool := true

-- What has been read of a group: the alternatives before the last bar and the parts after it, the
-- last one first.
structure Level where
  branches : List Part := []
  parts : List Part := []

def depthOf (parts : List Part) : Nat := parts.foldl (fun depth p => max depth p.depth) 0

-- The parts after the last bar as one part.
def Level.sequence (l : Level) : Part :=
  match l.parts with
  | [] => { expr := .empty }
  | [p] => p
  | parts => { expr := .sequence (parts.reverse.map (·.expr)), depth := 1 + depthOf parts }

def Level.whole (l : Level) : Part :=
  match l.branches with
  | [] => l.sequence
  | branches =>
    let all := l.sequence :: branches
    { expr := .choice (all.reverse.map (·.expr)), depth := 1 + depthOf all }

def Level.add (l : Level) (p : Part) : Level := { l with parts := p :: l.parts }

def Level.bar (l : Level) : Level := { branches := l.sequence :: l.branches }

-- A group that has been opened: its index and name if it captures, the flags outside of it, and
-- what stands in front of it.
structure OpenGroup where
  capture : Option (Nat × Option String)
  flags : Flags
  outside : Level

-- How far a pattern has been read.
structure Reading where
  rest : List Char
  flags : Flags := {}
  level : Level := {}
  opened : List OpenGroup := []
  -- The groups that capture, and the names among them.
  count : Nat := 0
  names : List String := []

namespace Reading

-- Where brackets and groups nest more deeply a pattern is refused.
def maxDepth : Nat := 250

-- Patterns that need more memory are refused.
def maxWeight : Nat := 10 * 1024 * 1024

def add (r : Reading) (p : Part) (rest : List Char) : Reading :=
  { r with rest, level := r.level.add p }

def openGroup (r : Reading) (capture : Option (Nat × Option String)) (inside : Flags)
    (rest : List Char) : Reading :=
  { r with
    rest
    flags := inside
    level := {}
    opened := { capture, flags := r.flags, outside := r.level } :: r.opened
    count := if capture.isSome then r.count + 1 else r.count
    names := match capture with
      | some (_, some name) => name :: r.names
      | _ => r.names }

def closeGroup (r : Reading) (rest : List Char) : Except PatternError Reading :=
  match r.opened with
  | [] => .error .unopenedGroup
  | g :: opened =>
    let inner := r.level.whole
    let expr := match g.capture with
      | some (index, name) => .group index name inner.expr
      | none => inner.expr
    .ok { r with
      rest
      flags := g.flags
      level := g.outside.add { expr, depth := 1 + inner.depth }
      opened }

-- Names start with a letter or an underscore; later characters may also be digits, points and
-- brackets.
def isNameStart (c : Char) : Bool := c == '_' || isAlphabetic c

def isNameChar (c : Char) : Bool :=
  isNameStart c || isNumber c || c == '.' || c == '[' || c == ']'

-- Reads the name of a group up to the angle that closes it.
def readName (r : Reading) (cs : List Char) : Except PatternError Reading :=
  match cs.takeWhile (· != '>'), cs.dropWhile (· != '>') with
  | c :: name, _ :: rest =>
    let text := String.ofList (c :: name)
    if ¬(isNameStart c ∧ name.all isNameChar) then .error .badGroupName
    else if text ∈ r.names then .error (.repeatedGroupName text)
    else .ok (r.openGroup (some (r.count + 1, some text)) r.flags rest)
  | _, _ => .error .badGroupName

-- Reads flags: a setting for the rest of the group, or the start of a group of their own.
def readFlags (r : Reading) (cs : List Char) : Except PatternError Reading := do
  let isEnd := fun c => c == ':' || c == ')'
  let letters := cs.takeWhile (!isEnd ·)
  match cs.dropWhile (!isEnd ·) with
  | [] => .error .unfinishedFlags
  | stop :: rest =>
    let flags ← r.flags.update letters
    if stop = ':' then return r.openGroup none flags rest
    else if letters.isEmpty then .error .nothingToRepeat
    else return { r.add { expr := .empty, repeatable := false } rest with flags }

-- Reads the start of a group after its parenthesis.
def readGroup (r : Reading) (cs : List Char) : Except PatternError Reading :=
  match r.flags.skip cs with
  | '?' :: '=' :: _ | '?' :: '!' :: _ | '?' :: '<' :: '=' :: _ | '?' :: '<' :: '!' :: _ =>
    .error .lookaround
  | '?' :: 'P' :: '<' :: rest | '?' :: '<' :: rest => r.readName rest
  | '?' :: rest => r.readFlags rest
  | rest => .ok (r.openGroup (some (r.count + 1, none)) r.flags rest)

-- Replaces the last part by a repetition of it.
def repeatLast (r : Reading) (min : Nat) (max : Option Nat) (lazy : Bool) (rest : List Char) :
    Except PatternError Reading :=
  match r.level.parts with
  | [] => .error .nothingToRepeat
  | p :: parts =>
    if p.repeatable then
      let expr := Expr.repetition p.expr min max (lazy == r.flags.swapGreed)
      let p : Part := { expr, depth := 1 + p.depth }
      .ok { r with rest, level := { r.level with parts := p :: parts } }
    else .error .nothingToRepeat

def stripBlanks (cs : List Char) : List Char :=
  (skipBlanks (skipBlanks cs).reverse).reverse

-- A count of repetitions; blanks may stand around it.
def count? (cs : List Char) : Option Nat :=
  let digits := stripBlanks cs
  if digits ≠ [] ∧ digits.all Decimal.isDigit ∧ Decimal.value digits ≤ 0xFFFFFFFF then
    some (Decimal.value digits)
  else none

-- The bounds between the braces of a repetition.
def bounds? (content : List Char) : Option (Nat × Option Nat) := do
  let first ← count? (content.takeWhile (· != ','))
  match content.dropWhile (· != ',') with
  | [] => return (first, some first)
  | [_] => return (first, none)
  | _ :: last =>
    let last ← count? last
    if first ≤ last then return (first, some last) else none

-- Reads the bounds of a repetition after the brace that opens them.
def readCount (r : Reading) (cs : List Char) : Except PatternError Reading :=
  match (r.flags.braced cs).bind fun (content, rest) => (bounds? content).map (·, rest) with
  | none => .error .badCount
  | some ((min, max), rest) =>
    match r.flags.skip rest with
    | '?' :: rest => r.repeatLast min max true rest
    | rest => r.repeatLast min max false rest

-- Reads a repetition after its sign.
def readSign (r : Reading) (min : Nat) (max : Option Nat) :
    List Char → Except PatternError Reading
  | '?' :: rest => r.repeatLast min max true rest
  | rest => r.repeatLast min max false rest

-- Reads the next part of a pattern, or the next sign of its structure.
def step (r : Reading) : List Char → Except PatternError Reading
  | [] => .ok r
  | '(' :: rest => r.readGroup rest
  | ')' :: rest => r.closeGroup rest
  | '|' :: rest => .ok { r with rest, level := r.level.bar }
  | '[' :: rest => do
    let (set, rest) ← bracketClass r.flags rest
    return r.add { expr := .char set.set, depth := set.depth } rest
  | '?' :: rest => r.readSign 0 (some 1) rest
  | '*' :: rest => r.readSign 0 none rest
  | '+' :: rest => r.readSign 1 none rest
  | '{' :: rest => r.readCount rest
  | '.' :: rest => do return r.add { expr := ← r.flags.dot } rest
  | '^' :: rest => .ok (r.add { expr := .assertion r.flags.lineStart } rest)
  | '$' :: rest => .ok (r.add { expr := .assertion r.flags.lineEnd } rest)
  | '\\' :: rest => do
    let (atom, rest) ← readEscape r.flags rest
    let expr := match atom with
      | .char c => r.flags.literal c
      | .set set => .char set
      | .assertion condition => .assertion condition
    return r.add { expr } rest
  | c :: rest => .ok (r.add { expr := r.flags.literal c } rest)

-- Takes at most the given number of steps. Every step reads a character or more.
def run : Nat → Reading → Except PatternError Reading
  | 0, r => .ok r
  | fuel + 1, r =>
    match r.flags.skip r.rest with
    | [] => .ok r
    | cs => do run fuel (← r.step cs)

def finish (r : Reading) : Except PatternError Pattern :=
  if !r.opened.isEmpty then .error .unclosedGroup
  else
    let whole := r.level.whole
    if maxDepth < whole.depth then .error .tooNested
    else if maxWeight < whole.expr.weight then .error .tooLarge
    else .ok ⟨whole.expr⟩

end Reading

-- Reads a pattern.
def parse (text : String) : Except PatternError Pattern := do
  let cs := text.toList
  (← Reading.run cs.length { rest := cs }).finish

end Pattern

end PropertyTemplates
