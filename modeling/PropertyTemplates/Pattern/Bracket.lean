import PropertyTemplates.Pattern.Escape

namespace PropertyTemplates.Pattern

-- How two sets between brackets are joined.
inductive SetOperator where
  | intersection
  | difference
  | symmetricDifference
deriving DecidableEq, Repr

def SetOperator.apply : SetOperator → CharSet → CharSet → CharSet
  | .intersection, a, b => .inter a b
  | .difference, a, b => .diff a b
  | .symmetricDifference, a, b => .symmDiff a b

-- A set and how deeply the brackets in it are nested.
structure NestedSet where
  set : CharSet
  depth : Nat := 0

-- What has been read since a bracket was opened, the last item first: the items since the last
-- operator, and that operator with the set on its left.
structure Bracket where
  negated : Bool
  items : List NestedSet
  pending : Option (SetOperator × NestedSet) := none

namespace Bracket

def add (b : Bracket) (item : NestedSet) : Bracket := { b with items := item :: b.items }

-- The union of the items since the last operator.
def union (b : Bracket) : NestedSet :=
  match b.items.reverse with
  | [] => { set := .none }
  | [item] => item
  | first :: rest => {
      set := rest.foldl (fun set item => .union set item.set) first.set
      depth := 1 + b.items.foldl (fun depth item => max depth item.depth) 0 }

-- The set of all that has been read. Operators are applied from left to right.
def joined (f : Flags) (b : Bracket) : NestedSet :=
  match b.pending with
  | none => b.union
  | some (operator, left) => {
      set := operator.apply (f.fold left.set) (f.fold b.union.set)
      depth := 1 + max left.depth b.union.depth }

def operate (f : Flags) (b : Bracket) (operator : SetOperator) : Bracket :=
  { b with items := [], pending := some (operator, b.joined f) }

def close (f : Flags) (b : Bracket) : Except PatternError NestedSet :=
  (f.negateIf b.negated (f.fold (b.joined f).set)).map fun set =>
    { set, depth := 1 + (b.joined f).depth }

-- Reads minus signs in front of a class, each of which stands for itself.
def readMinus (f : Flags) (b : Bracket) : Nat → List Char → Bracket × List Char
  | fuel + 1, '-' :: cs => readMinus f (b.add { set := .single '-' }) fuel (f.skip cs)
  | _, cs => (b, cs)

-- Reads the start of a class after its opening bracket. A closing bracket there stands for itself.
def start (f : Flags) (cs : List Char) : Bracket × List Char :=
  let (negated, cs) :=
    match f.skip cs with
    | '^' :: rest => (true, f.skip rest)
    | rest => (false, rest)
  match readMinus f { negated, items := [] } cs.length cs with
  | (b, ']' :: rest) =>
    if b.items.isEmpty then (b.add { set := .single ']' }, f.skip rest) else (b, ']' :: rest)
  | read => read

end Bracket

-- Reads a class of ASCII characters given by its name, after the bracket that opens it; none if no
-- such name stands there.
def readNamedClass (f : Flags) (cs : List Char) :
    Option (Except PatternError NestedSet × List Char) :=
  match cs with
  | ':' :: rest =>
    let (negated, rest) :=
      match rest with
      | '^' :: rest => (true, rest)
      | rest => (false, rest)
    match rest.dropWhile (· != ':') with
    | ':' :: ']' :: after =>
      (CharSet.asciiClass? (String.ofList (rest.takeWhile (· != ':')))).map fun set =>
        ((f.negateIf negated (f.fold set)).map fun set => { set }, after)
    | _ => none
  | _ => none

-- Reads a character or an escape between brackets.
def readClassAtom (f : Flags) : List Char → Except PatternError (Atom × List Char)
  | [] => .error .unclosedClass
  | '\\' :: cs => readEscape f cs
  | c :: cs => .ok (.char c, cs)

-- A character that is an end of a range or a member of a class.
def classChar (f : Flags) : Atom → Except PatternError Char
  | .char c => if f.unicode || c.toNat < 128 then .ok c else .error .needsUnicode
  | _ => .error .badRange

def atomSet (f : Flags) : Atom → Except PatternError NestedSet
  | .char c => (classChar f (.char c)).map fun c => { set := .single c }
  | .set set => .ok { set }
  | .assertion _ => .error .notInClass

-- Reads a member of a class or a range of members.
def readClassItem (f : Flags) (cs : List Char) : Except PatternError (NestedSet × List Char) := do
  let (first, rest) ← readClassAtom f cs
  match f.skip rest with
  | [] => .error .unclosedClass
  | '-' :: rest =>
    if f.nextIsOneOf [']', '-'] rest then return (← atomSet f first, '-' :: rest)
    else do
      let (last, rest) ← readClassAtom f (f.skip rest)
      let first ← classChar f first
      let last ← classChar f last
      if first ≤ last then return ({ set := .range first.toNat last.toNat }, rest)
      else .error .badRange
  | rest => return (← atomSet f first, rest)

-- Reads a class up to the bracket that closes the outermost of the open ones.
def readClass (f : Flags) : Nat → Bracket → List Bracket → List Char →
    Except PatternError (NestedSet × List Char)
  | 0, _, _, _ => .error .unclosedClass
  | fuel + 1, b, outer, cs =>
    match f.skip cs with
    | [] => .error .unclosedClass
    | '[' :: rest =>
      match readNamedClass f rest with
      | some (set, rest) => do readClass f fuel (b.add (← set)) outer rest
      | none =>
        let (inner, rest) := Bracket.start f rest
        readClass f fuel inner (b :: outer) rest
    | ']' :: rest => do
      let set ← b.close f
      match outer with
      | [] => return (set, rest)
      | up :: outer => readClass f fuel (up.add set) outer rest
    | '&' :: '&' :: rest => readClass f fuel (b.operate f .intersection) outer rest
    | '-' :: '-' :: rest => readClass f fuel (b.operate f .difference) outer rest
    | '~' :: '~' :: rest => readClass f fuel (b.operate f .symmetricDifference) outer rest
    | rest => do
      let (item, rest) ← readClassItem f rest
      readClass f fuel (b.add item) outer rest

-- Reads a class after its opening bracket.
def bracketClass (f : Flags) (cs : List Char) : Except PatternError (NestedSet × List Char) :=
  let (b, rest) := Bracket.start f cs
  readClass f (rest.length + 1) b [] rest

end PropertyTemplates.Pattern
