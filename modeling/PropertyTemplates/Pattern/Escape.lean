import PropertyTemplates.Pattern.Flags
import PropertyTemplates.Pattern.Property
import PropertyTemplates.Text.Quoted

namespace PropertyTemplates.Pattern

open Text

-- The smallest parts of a pattern.
inductive Atom where
  | char (c : Char)
  | set (set : CharSet)
  | assertion (condition : Assertion)
deriving DecidableEq, Repr

-- Reads the given number of characters that count.
def takeCounting (f : Flags) : Nat → List Char → Option (List Char × List Char)
  | 0, cs => some ([], cs)
  | _ + 1, [] => none
  | n + 1, c :: cs => (takeCounting f n (f.skip cs)).map fun (taken, rest) => (c :: taken, rest)

-- Reads the number of a character: digits between braces, or as many as the letter asks for.
def readHex (f : Flags) (count : Nat) (cs : List Char) : Except PatternError (Atom × List Char) :=
  match f.skip cs with
  | '{' :: rest =>
    match f.braced rest with
    | none => .error .unfinishedEscape
    | some (digits, rest) =>
      match hexChar? digits with
      | some c => .ok (.char c, f.skip rest)
      | none => .error .badHex
  | rest =>
    match takeCounting f count rest with
    | none => .error .unfinishedEscape
    | some (digits, rest) =>
      match hexChar? digits with
      | some c =>
        if count = 2 ∧ !f.unicode ∧ 128 ≤ c.toNat then .error .needsUnicode
        else .ok (.char c, rest)
      | none => .error .badHex

-- Splits at the first place where a text stands.
def cutAtText (mark : List Char) : List Char → Option (List Char × List Char)
  | [] => none
  | c :: cs =>
    if mark.isPrefixOf (c :: cs) then some ([], (c :: cs).drop mark.length)
    else (cutAtText mark cs).map fun (before, after) => (c :: before, after)

-- The set that a property describes, and whether its complement is meant: a name, or a property and
-- its value.
def propertySet? (content : List Char) : Option (CharSet × Bool) :=
  match cutAtText ['!', '='] content with
  | some (property, value) => (valuedSet? property value).map (·, true)
  | none =>
    match (cutAtText [':'] content).or (cutAtText ['='] content) with
    | some (property, value) => (valuedSet? property value).map (·, false)
    | none => (namedSet? content).map (·, false)

-- What names a property after the letter that announces it: a letter, or a text between braces.
def propertyName? (f : Flags) (cs : List Char) : Option (List Char × List Char) :=
  match f.skip cs with
  | [] => none
  | '{' :: rest => f.braced rest
  | '\\' :: _ => none
  | c :: rest => some ([c], f.skip rest)

-- Reads a property. The other cases of the members belong to the set before it is negated.
def readProperty (f : Flags) (negated : Bool) (cs : List Char) :
    Except PatternError (Atom × List Char) :=
  match propertyName? f cs with
  | none => .error .unfinishedEscape
  | some (content, rest) =>
    match propertySet? content with
    | none => .error (.unknownProperty (String.ofList content))
    | some (set, isComplement) =>
      if !f.unicode then .error .needsUnicode
      else .ok (.set (if negated != isComplement then .compl (f.fold set) else f.fold set), rest)

-- The classes that have a letter of their own; a capital letter negates.
def letterClass (f : Flags) (letter : Char) : Except PatternError CharSet :=
  let set := match letter.toLower with
    | 'd' => if f.unicode then .digit else .range 0x30 0x39
    | 's' => if f.unicode then .blank else .ofRanges [(0x09, 0x0d), (0x20, 0x20)]
    | _ =>
      if f.unicode then .word
      else .ofRanges [(0x30, 0x39), (0x41, 0x5a), (0x5f, 0x5f), (0x61, 0x7a)]
  f.negateIf letter.isUpper set

-- Characters that stand for themselves behind a backslash: those of ASCII that are neither letters
-- nor digits nor angles.
def isEscapable (c : Char) : Bool := c.toNat < 128 && !c.isAlphanum && c != '<' && c != '>'

def controlChar? : Char → Option Char
  | 'a' => some '\x07'
  | 'f' => some '\x0c'
  | 't' => some '\t'
  | 'n' => some '\n'
  | 'r' => some '\r'
  | 'v' => some '\x0b'
  | _ => none

def isBoundaryNameChar (c : Char) : Bool := c.isAlpha || c == '-'

-- Reads a word boundary after its letter. A name between braces may say on which side the word is;
-- braces that do not start with a letter belong to a repetition.
def readBoundary (f : Flags) (cs : List Char) : Except PatternError (Atom × List Char) :=
  let ascii := !f.unicode
  match cs with
  | '{' :: rest =>
    if (f.skip rest).head?.any isBoundaryNameChar then
      match f.braced rest with
      | some (name, rest) =>
        match String.ofList name with
        | "start" => .ok (.assertion (.wordStart ascii), rest)
        | "end" => .ok (.assertion (.wordEnd ascii), rest)
        | "start-half" => .ok (.assertion (.wordStartHalf ascii), rest)
        | "end-half" => .ok (.assertion (.wordEndHalf ascii), rest)
        | _ => .error (.unknownEscape 'b')
      | none => .error .unfinishedEscape
    else .ok (.assertion (.boundary ascii), cs)
  | _ => .ok (.assertion (.boundary ascii), cs)

-- Reads what follows a backslash.
def readEscape (f : Flags) : List Char → Except PatternError (Atom × List Char)
  | [] => .error .unfinishedEscape
  | c :: cs =>
    if c.isDigit then .error .backreference
    else if isEscapable c then .ok (.char c, cs)
    else match c with
      | 'x' => readHex f 2 cs
      | 'u' => readHex f 4 cs
      | 'U' => readHex f 8 cs
      | 'p' => readProperty f false cs
      | 'P' => readProperty f true cs
      | 'd' | 's' | 'w' | 'D' | 'S' | 'W' => (letterClass f c).map fun set => (.set set, cs)
      | 'A' => .ok (.assertion .textStart, cs)
      | 'z' => .ok (.assertion .textEnd, cs)
      | 'b' => readBoundary f cs
      | 'B' => .ok (.assertion (.noBoundary !f.unicode), cs)
      | '<' => .ok (.assertion (.wordStart !f.unicode), cs)
      | '>' => .ok (.assertion (.wordEnd !f.unicode), cs)
      | _ =>
        match controlChar? c with
        | some control => .ok (.char control, cs)
        | none => .error (.unknownEscape c)

end PropertyTemplates.Pattern
