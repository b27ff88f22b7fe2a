import PropertyTemplates.Decimal.Numeral

namespace PropertyTemplates

open Decimal

-- One step of a path: the accessor to call, and the position in the list it yields if one is given.
structure Segment where
  accessor : String
  index : Option Nat
deriving DecidableEq, Repr

-- A path in the form it was written, and its steps.
structure Path where
  text : String
  segments : List Segment
deriving DecidableEq, Repr

-- Why a path cannot be read or leads nowhere.
inductive PathError where
  | malformedIndex (segment : String)
  | noAccessor (accessor kind : String)
  | notAList (accessor kind : String)
  | outOfRange (accessor : String) (index length : Nat)
deriving DecidableEq, Repr

def PathError.message : PathError → String
  | .malformedIndex segment => "Malformed index in path segment '" ++ segment ++ "'"
  | .noAccessor accessor kind => "No accessor '" ++ accessor ++ "' on " ++ kind
  | .notAList accessor kind =>
    "Accessor '" ++ accessor ++ "' is indexed but returned " ++ kind ++ ", not a list"
  | .outOfRange accessor index length =>
    "Index " ++ String.ofList (numeral index) ++ " out of range for '" ++ accessor ++
      "' (length " ++ String.ofList (numeral length) ++ ")"

-- The greatest index that a path can name.
def Segment.maxIndex : Nat := 0xFFFFFFFFFFFFFFFF

-- The number between the brackets, given what follows the opening one.
def Segment.index? (cs : List Char) : Option Nat :=
  let digits := cs.dropLast
  if cs.getLast? = some ']' ∧ digits ≠ [] ∧ digits.all isDigit ∧ value digits ≤ maxIndex then
    some (value digits)
  else none

-- Reads a step, written `name` or `name[N]`.
def Segment.parse (cs : List Char) : Except PathError Segment :=
  let name := String.ofList (cs.takeWhile (· != '['))
  match cs.dropWhile (· != '[') with
  | [] => .ok ⟨name, none⟩
  | _ :: rest =>
    match Segment.index? rest with
    | some index => .ok ⟨name, some index⟩
    | none => .error (.malformedIndex (String.ofList cs))

-- The pieces between the points of a text; there is one more piece than there are points.
def Path.pieces : List Char → List (List Char)
  | [] => [[]]
  | c :: cs =>
    match pieces cs with
    | piece :: rest => if c = '.' then [] :: piece :: rest else (c :: piece) :: rest
    | [] => []

-- Reads a path: steps separated by points.
def Path.parse (text : String) : Except PathError Path := do
  return ⟨text, ← (Path.pieces text.toList).mapM Segment.parse⟩

def Segment.print (s : Segment) : List Char :=
  match s.index with
  | some index => s.accessor.toList ++ '[' :: numeral index ++ [']']
  | none => s.accessor.toList

-- The steps of a path in their written form, with points between them.
def Path.print : List Segment → List Char
  | [] => []
  | [s] => s.print
  | s :: rest => s.print ++ '.' :: Path.print rest

end PropertyTemplates
