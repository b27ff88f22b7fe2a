namespace PropertyTemplates.Text

def hexDigit (c : Char) : Nat :=
  if '0' ≤ c && c ≤ '9' then c.toNat - '0'.toNat
  else if 'a' ≤ c && c ≤ 'f' then c.toNat - 'a'.toNat + 10
  else if 'A' ≤ c && c ≤ 'F' then c.toNat - 'A'.toNat + 10
  else 0

def hexNumber (cs : List Char) : Nat := cs.foldl (fun n c => 16 * n + hexDigit c) 0

-- The maximal runs of characters other than blanks and line ends.
def words (cs : List Char) : List (List Char) :=
  let (current, done) := cs.foldr (fun c (word, found) =>
    if c = ' ' || c = '\n' then ([], if word.isEmpty then found else word :: found)
    else (c :: word, found)) ([], [])
  if current.isEmpty then done else current :: done

-- The two sides of the first occurrence of a separator; the right side is empty without one.
def cutAt (separator : Char) (cs : List Char) : List Char × List Char :=
  (cs.takeWhile (· != separator), (cs.dropWhile (· != separator)).drop 1)

-- The position of the last entry whose key is at most `n`, by bisection of an array whose keys
-- ascend. `lo` is such an entry and every entry from `hi` on has a greater key.
def lastAtMost {α : Type} (key : α → Nat) (entries : Array α) (n lo hi : Nat) : Nat :=
  if lo + 1 < hi then
    let middle := (lo + hi) / 2
    match entries[middle]? with
    | some entry =>
      if key entry ≤ n then lastAtMost key entries n middle hi
      else lastAtMost key entries n lo middle
    | none => lo
  else lo
termination_by hi - lo

-- Every `step`-th code point from `first` to `last`.
structure CodeRange where
  first : Nat
  last : Nat
  step : Nat
deriving DecidableEq, Repr

def CodeRange.contains (r : CodeRange) (n : Nat) : Bool :=
  r.first ≤ n && n ≤ r.last && (n - r.first) % r.step == 0

-- A set of code points as ranges in ascending order.
structure RangeTable where
  ranges : Array CodeRange

-- Reads ranges written in hexadecimal and separated by blanks: `5f`, `41-5a`, or `100-12e/2` for
-- every second code point.
def RangeTable.ofText (text : String) : RangeTable :=
  ⟨((words text.toList).map fun word =>
    let (bounds, step) := cutAt '/' word
    let (first, last) := cutAt '-' bounds
    { first := hexNumber first
      last := hexNumber (if last.isEmpty then first else last)
      step := if step.isEmpty then 1 else hexNumber step }).toArray⟩

def RangeTable.contains (t : RangeTable) (n : Nat) : Bool :=
  match t.ranges[lastAtMost CodeRange.first t.ranges n 0 t.ranges.size]? with
  | some r => r.contains n
  | none => false

-- Labels for all code points: each entry holds from its first code point up to the next entry.
structure LabelTable where
  entries : Array (Nat × List Char)

-- Reads entries such as `41:Lu`, separated by blanks.
def LabelTable.ofText (text : String) : LabelTable :=
  ⟨((words text.toList).map fun word =>
    let (first, label) := cutAt ':' word
    (hexNumber first, label)).toArray⟩

-- The entry in force at a code point.
def LabelTable.find (t : LabelTable) (n : Nat) : Nat × List Char :=
  t.entries.getD (lastAtMost Prod.fst t.entries n 0 t.entries.size) (0, [])

end PropertyTemplates.Text
