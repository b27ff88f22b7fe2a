import PropertyTemplates.Pattern.CharSet

namespace PropertyTemplates.Pattern

-- A condition on a place between two characters. The flag says that only the letters, digits and
-- the underscore of ASCII make words.
inductive Assertion where
  | textStart
  | textEnd
  | lineStart
  | lineEnd
  -- Line ends where a carriage return, a line feed, or one followed by the other ends a line.
  | anyLineStart
  | anyLineEnd
  | boundary (ascii : Bool)
  | noBoundary (ascii : Bool)
  | wordStart (ascii : Bool)
  | wordEnd (ascii : Bool)
  | wordStartHalf (ascii : Bool)
  | wordEndHalf (ascii : Bool)
deriving DecidableEq, Repr

-- Whether a character is there and belongs to a word.
def isWordAt (ascii : Bool) : Option Char → Bool
  | some c => if ascii then c.isAlphanum || c == '_' else Text.isWordCharacter c
  | none => false

-- Whether the condition holds between the two characters; none stands for an end of the text.
def Assertion.holds (before after : Option Char) : Assertion → Bool
  | .textStart => before.isNone
  | .textEnd => after.isNone
  | .lineStart => before.isNone || before == some '\n'
  | .lineEnd => after.isNone || after == some '\n'
  | .anyLineStart =>
    before.isNone || before == some '\n' || (before == some '\r' && after != some '\n')
  | .anyLineEnd =>
    after.isNone || after == some '\r' || (after == some '\n' && before != some '\r')
  | .boundary ascii => isWordAt ascii before != isWordAt ascii after
  | .noBoundary ascii => isWordAt ascii before == isWordAt ascii after
  | .wordStart ascii => !isWordAt ascii before && isWordAt ascii after
  | .wordEnd ascii => isWordAt ascii before && !isWordAt ascii after
  | .wordStartHalf ascii => !isWordAt ascii before
  | .wordEndHalf ascii => !isWordAt ascii after

-- What a pattern matches. Of two alternatives the first is preferred; a repetition prefers one more
-- turn if it is greedy and one less if it is not.
inductive Expr where
  | empty
  | char (set : CharSet)
  | assertion (condition : Assertion)
  | group (index : Nat) (name : Option String) (body : Expr)
  | seq (first second : Expr)
  | alt (first second : Expr)
  | repeat (body : Expr) (min : Nat) (max : Option Nat) (greedy : Bool)
deriving DecidableEq, Repr

namespace Expr

-- The parts of a sequence.
def factors : Expr → List Expr
  | .seq a b => a.factors ++ b.factors
  | .empty => []
  | e => [e]

def ofFactors : List Expr → Expr
  | [] => .empty
  | [e] => e
  | e :: rest => .seq e (ofFactors rest)

-- A sequence; nested sequences are joined and empty parts left out.
def sequence (parts : List Expr) : Expr := ofFactors (parts.flatMap factors)

-- The branches of an alternative.
def branches : Expr → List Expr
  | .alt a b => a.branches ++ b.branches
  | e => [e]

def ofBranches : List Expr → Expr
  | [] => .empty
  | [e] => e
  | e :: rest => .alt e (ofBranches rest)

-- The longest list that both lists start with.
def commonStart : List Expr → List Expr → List Expr
  | a :: as, b :: bs => if a = b then a :: commonStart as bs else []
  | _, _ => []

-- A choice between branches. Parts that all branches start with are matched before the choice, if
-- each branch is a sequence.
def choice (parts : List Expr) : Expr :=
  match (parts.flatMap branches).map factors with
  | [] => .empty
  | [one] => ofFactors one
  | first :: rest =>
    let shared :=
      if (first :: rest).all fun b => 1 < b.length then rest.foldl commonStart first else []
    let remaining := (first :: rest).map fun b => ofFactors (b.drop shared.length)
    ofFactors (shared ++ if shared.isEmpty then [ofBranches remaining]
      else [ofBranches (remaining.flatMap branches)])

-- Whether an expression can match no character at all.
def isBare : Expr → Bool
  | .empty | .assertion _ => true
  | .char _ => false
  | .group _ _ body => body.isBare
  | .seq a b => a.isBare && b.isBare
  | .alt a b => a.isBare && b.isBare
  | .repeat body _ _ _ => body.isBare

-- A repetition. What matches no character is matched once at most, no turns match the empty text,
-- and one turn is the body itself.
def repetition (body : Expr) (min : Nat) (max : Option Nat) (greedy : Bool) : Expr :=
  let (min, max) :=
    if body.isBare then (Nat.min min 1, some (match max with | some n => Nat.min n 1 | none => 1))
    else (min, max)
  if max = some 0 then .empty
  else if min = 1 ∧ max = some 1 then body
  else .repeat body min max greedy

-- The groups of an expression with their names.
def groups : Expr → List (Nat × Option String)
  | .group index name body => (index, name) :: body.groups
  | .seq a b => a.groups ++ b.groups
  | .alt a b => a.groups ++ b.groups
  | .repeat body _ _ _ => body.groups
  | _ => []

-- An estimate of the memory that a set of characters takes when a pattern is prepared, in bytes.
def setWeight : CharSet → Nat
  | .range first last => if first ≤ 0x7f && last ≤ 0x7f then 32 else 200
  | .digit => 2500
  | .blank => 700
  | .word => 19000
  | .categories _ => 12000
  | .scriptOf _ => 1000
  | .binary _ => 10000
  | .union a b => setWeight a + setWeight b
  | .inter a b => Nat.min (setWeight a) (setWeight b)
  | .diff a _ => setWeight a
  | .symmDiff a b => setWeight a + setWeight b
  | .compl a => setWeight a + 200
  | .folded a => setWeight a + 32
  | .asciiFolded a => setWeight a + 32

-- The same for an expression. Repetitions are written out.
def weight : Expr → Nat
  | .empty => 0
  | .char set => setWeight set
  | .assertion _ => 32
  | .group _ _ body => body.weight + 64
  | .seq a b => a.weight + b.weight
  | .alt a b => a.weight + b.weight + 40
  | .repeat body min max _ => (Nat.max min (max.getD 0) + 1) * (body.weight + 40)

end Expr

end PropertyTemplates.Pattern
