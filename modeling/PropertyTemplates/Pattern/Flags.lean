import PropertyTemplates.Pattern.Error
import PropertyTemplates.Pattern.Expr

namespace PropertyTemplates.Pattern

open Text

-- How the parts of a pattern are read.
structure Flags where
  ignoreCase : Bool := false
  multiLine : Bool := false
  dotAll : Bool := false
  swapGreed : Bool := false
  unicode : Bool := true
  -- Carriage returns and line feeds end lines.
  anyLineEnd : Bool := false
  -- Blanks and comments do not count.
  verbose : Bool := false
deriving DecidableEq, Repr

-- Passes over blanks and comments. The flag says that a comment has begun; it lasts to the end of
-- its line.
def skipRemarks : Bool → List Char → List Char
  | _, [] => []
  | true, c :: cs => skipRemarks (c != '\n') cs
  | false, c :: cs =>
    if isBlank c then skipRemarks false cs
    else if c = '#' then skipRemarks true cs
    else c :: cs

-- Reads up to a closing brace. Where remarks do not count they are left out.
def upToBrace (verbose : Bool) : Bool → List Char → Option (List Char × List Char)
  | _, [] => none
  | true, c :: cs => upToBrace verbose (c != '\n') cs
  | false, c :: cs =>
    if verbose && isBlank c then upToBrace verbose false cs
    else if verbose && c == '#' then upToBrace verbose true cs
    else if c = '}' then some ([], cs)
    else (upToBrace verbose false cs).map fun (inner, rest) => (c :: inner, rest)

namespace Flags

-- The next character that counts.
def skip (f : Flags) (cs : List Char) : List Char :=
  if f.verbose then skipRemarks false cs else cs

-- What stands between braces, given what follows the opening one.
def braced (f : Flags) (cs : List Char) : Option (List Char × List Char) :=
  upToBrace f.verbose false cs

-- Whether the next character that counts is one of the given ones. A look ahead goes into a
-- comment.
def nextIsOneOf (f : Flags) (set cs : List Char) : Bool :=
  let ahead :=
    if f.verbose then
      match skipBlanks cs with
      | '#' :: rest => skipBlanks rest
      | rest => rest
    else cs
  ahead.head?.any set.contains

def set (f : Flags) (on : Bool) : Char → Option Flags
  | 'i' => some { f with ignoreCase := on }
  | 'm' => some { f with multiLine := on }
  | 's' => some { f with dotAll := on }
  | 'U' => some { f with swapGreed := on }
  | 'u' => some { f with unicode := on }
  | 'R' => some { f with anyLineEnd := on }
  | 'x' => some { f with verbose := on }
  | _ => none

-- Switches on the flags in front of a minus and off those behind it. Each is named once, and a
-- minus is not the last.
def update (f : Flags) (letters : List Char) : Except PatternError Flags :=
  if letters.getLast? = some '-' ∨ ¬letters.Nodup then .error .badFlags
  else
    let on := letters.takeWhile (· != '-')
    let off := (letters.dropWhile (· != '-')).drop 1
    let switched := do
      let f ← on.foldlM (fun f c => f.set true c) f
      off.foldlM (fun f c => f.set false c) f
    match switched with
    | some f => .ok f
    | none => .error .badFlags

-- A set with the other cases of its members, where case does not matter.
def fold (f : Flags) (set : CharSet) : CharSet :=
  if f.ignoreCase then (if f.unicode then .folded set else .asciiFolded set) else set

-- The characters that are not in a set.
def complement (f : Flags) (set : CharSet) : Except PatternError CharSet :=
  if f.unicode then .ok (.compl set) else .error .needsUnicode

def negateIf (f : Flags) (negated : Bool) (set : CharSet) : Except PatternError CharSet :=
  if negated then f.complement set else .ok set

-- The expression that matches a character.
def literal (f : Flags) (c : Char) : Expr :=
  .char (if f.unicode || c.toNat < 128 then f.fold (.single c) else .single c)

-- The expression that matches any character of a line, or any at all.
def dot (f : Flags) : Except PatternError Expr :=
  if !f.unicode then .error .needsUnicode
  else .ok (.char (if f.dotAll then .all else .notLineEnd f.anyLineEnd))

def lineStart (f : Flags) : Assertion :=
  if !f.multiLine then .textStart else if f.anyLineEnd then .anyLineStart else .lineStart

def lineEnd (f : Flags) : Assertion :=
  if !f.multiLine then .textEnd else if f.anyLineEnd then .anyLineEnd else .lineEnd

end Flags

end PropertyTemplates.Pattern
