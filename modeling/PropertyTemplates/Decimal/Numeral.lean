namespace PropertyTemplates.Decimal

-- The numeral of a number in base ten, without a leading zero.
def numeral (n : Nat) : List Char := (Nat.repr n).toList

def isDigit (c : Char) : Bool := '0' ≤ c && c ≤ '9'

def digitValue (c : Char) : Nat := c.toNat - '0'.toNat

-- The number that a run of decimal digits denotes; leading zeros do not matter.
def value (digits : List Char) : Nat := digits.foldl (fun n c => 10 * n + digitValue c) 0

-- A numeral with at least `width` digits, filled up with zeros on the left.
def padded (width n : Nat) : List Char :=
  let digits := numeral n
  List.replicate (width - digits.length) '0' ++ digits

end PropertyTemplates.Decimal
