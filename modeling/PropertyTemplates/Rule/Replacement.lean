import PropertyTemplates.Decimal.Numeral

namespace PropertyTemplates

open Decimal

-- A piece of a replacement: a character, or the text that a group has matched.
inductive ReplacementItem where
  | literal (c : Char)
  | group (index : Nat)
  | named (name : String)
deriving DecidableEq, Repr

-- Why a replacement cannot be read.
inductive ReplacementError where
  | trailingEscape
  | unterminatedName
  | unknownName (name : String)
  | unknownGroup (index : Nat)
  | illegalReference
deriving DecidableEq, Repr

def ReplacementError.message : ReplacementError → String
  | .trailingEscape => "trailing escape character"
  | .unterminatedName => "unterminated group name"
  | .unknownName name => "no group named '" ++ name ++ "'"
  | .unknownGroup index => "no group " ++ String.ofList (numeral index)
  | .illegalReference => "illegal group reference"

namespace Replacement

-- Extends a group number by the digits that follow, as long as there is a group of that number.
def extendIndex (count : Nat) (index : Nat) : List Char → Nat × List Char
  | [] => (index, [])
  | c :: cs =>
    if isDigit c ∧ 10 * index + digitValue c ≤ count then
      extendIndex count (10 * index + digitValue c) cs
    else (index, c :: cs)

theorem length_extendIndex (count index : Nat) (cs : List Char) :
    (extendIndex count index cs).2.length ≤ cs.length := by
  induction cs generalizing index with
  | nil => simp [extendIndex]
  | cons c cs ih =>
    unfold extendIndex
    split
    · exact Nat.le_trans (ih _) (Nat.le_succ _)
    · exact Nat.le_refl _

-- Splits what follows an opening brace at the first closing one.
def braced? (cs : List Char) : Option (List Char × List Char) :=
  match cs.dropWhile (· != '}') with
  | _ :: rest => some (cs.takeWhile (· != '}'), rest)
  | [] => none

theorem length_of_braced? {cs inner rest : List Char} (h : braced? cs = some (inner, rest)) :
    rest.length < cs.length := by
  unfold braced? at h
  split at h
  · rename_i tail heq
    have hl := congrArg List.length heq
    have := (List.dropWhile_suffix (· != '}') (l := cs)).length_le
    simp only [Option.some.injEq, Prod.mk.injEq] at h
    simp only [List.length_cons] at hl
    rw [← h.2]
    omega
  · simp at h

-- Reads a replacement for a pattern with the given number of groups and names of groups. A
-- backslash takes the next character as it is; a dollar sign refers to a group, by its name in
-- braces or by its number.
def read (count : Nat) (names : List String) (cs : List Char) :
    Except ReplacementError (List ReplacementItem) :=
  match cs with
  | [] => .ok []
  | ['\\'] => .error .trailingEscape
  | '\\' :: c :: rest => do return .literal c :: (← read count names rest)
  | '$' :: '{' :: rest =>
    match _h : braced? rest with
    | none => .error .unterminatedName
    | some (inner, after) =>
      let name := String.ofList inner
      if name ∈ names then do return .named name :: (← read count names after)
      else .error (.unknownName name)
  | '$' :: c :: rest =>
    if isDigit c then
      if digitValue c ≤ count then do
        let index := extendIndex count (digitValue c) rest
        return .group index.1 :: (← read count names index.2)
      else .error (.unknownGroup (digitValue c))
    else .error .illegalReference
  | ['$'] => .error .illegalReference
  | c :: rest => do return .literal c :: (← read count names rest)
termination_by cs.length
decreasing_by
  all_goals simp only [List.length_cons]
  · omega
  · have := length_of_braced? ‹_›
    omega
  · have := length_extendIndex count (digitValue c) rest
    omega
  · omega

-- The form of a piece in which references stand in braces and a dollar sign is doubled.
def printItem : ReplacementItem → List Char
  | .literal c => if c = '$' then ['$', '$'] else [c]
  | .group index => '$' :: '{' :: numeral index ++ ['}']
  | .named name => '$' :: '{' :: name.toList ++ ['}']

def print (items : List ReplacementItem) : List Char := items.flatMap printItem

-- Expands the printed form of a replacement: references become the texts of their groups.
def expand (group : Nat → List Char) (named : String → List Char) (cs : List Char) : List Char :=
  match cs with
  | [] => []
  | '$' :: '$' :: rest => '$' :: expand group named rest
  | '$' :: '{' :: rest =>
    match _h : braced? rest with
    | some (inner, after) =>
      let text :=
        if inner ≠ [] ∧ inner.all isDigit then group (value inner)
        else named (String.ofList inner)
      text ++ expand group named after
    | none => '$' :: '{' :: expand group named rest
  | c :: rest => c :: expand group named rest
termination_by cs.length
decreasing_by
  all_goals simp only [List.length_cons]
  · omega
  · have := length_of_braced? ‹_›
    omega
  · omega
  · omega

end Replacement

end PropertyTemplates
