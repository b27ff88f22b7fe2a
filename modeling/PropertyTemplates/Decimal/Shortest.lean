namespace PropertyTemplates.Decimal

-- The number `digits · 10 ^ exponent`.
structure Scaled where
  digits : Nat
  exponent : Int
deriving DecidableEq, Repr

-- A positive number `mantissa · 2 ^ exponent` together with the numbers that round to it. These lie
-- between halfway to the neighbour below and halfway to the neighbour above. Below a power of two
-- the numbers lie twice as dense. The ends belong to the range when the mantissa is even.
structure Binary where
  mantissa : Nat
  exponent : Int
  -- The number below lies half as far away as the one above.
  tight : Bool
deriving DecidableEq, Repr

-- A quotient of two natural numbers, the second of them positive.
structure Quotient where
  num : Nat
  den : Nat
deriving DecidableEq, Repr

def Quotient.le (a b : Quotient) : Bool := a.num * b.den ≤ b.num * a.den

def Quotient.lt (a b : Quotient) : Bool := a.num * b.den < b.num * a.den

-- The quotient `n · base ^ e`.
def Quotient.scale (n base : Nat) (e : Int) : Quotient :=
  if 0 ≤ e then ⟨n * base.pow e.toNat, 1⟩ else ⟨n, base.pow (-e).toNat⟩

def Binary.value (b : Binary) : Quotient := .scale (4 * b.mantissa) 2 (b.exponent - 2)

def Binary.low (b : Binary) : Quotient :=
  .scale (4 * b.mantissa - if b.tight then 1 else 2) 2 (b.exponent - 2)

def Binary.high (b : Binary) : Quotient := .scale (4 * b.mantissa + 2) 2 (b.exponent - 2)

def Scaled.value (d : Scaled) : Quotient := .scale d.digits 10 d.exponent

-- A decimal reads back as the number when it lies in the number's range.
def Binary.readsBack (b : Binary) (d : Scaled) : Bool :=
  if b.mantissa % 2 == 0 then b.low.le d.value && d.value.le b.high
  else b.low.lt d.value && d.value.lt b.high

-- The greatest power of ten that is not above the quotient, estimated from the binary logarithm
-- and then corrected by at most one.
def Quotient.magnitude (q : Quotient) : Int :=
  let binary : Int := (Nat.log2 q.num : Int) - (Nat.log2 q.den : Int)
  let guess := Int.fdiv (binary * 1233) 4096
  if (Quotient.scale 1 10 (guess + 1)).le q then guess + 1
  else if (Quotient.scale 1 10 guess).le q then guess
  else guess - 1

-- The multiple of `10 ^ p` just below the quotient.
def Quotient.floorAt (q : Quotient) (p : Int) : Nat :=
  if 0 ≤ p then q.num / (q.den * Nat.pow 10 p.toNat) else q.num * Nat.pow 10 (-p).toNat / q.den

-- The decimal with `places` digits that reads back and lies nearest to the number, if one does.
def Binary.nearest? (b : Binary) (places : Nat) : Option Scaled :=
  let p := b.value.magnitude - (places - 1 : Nat)
  let n := b.value.floorAt p
  let lower : Scaled := ⟨n, p⟩
  let upper : Scaled := ⟨n + 1, p⟩
  match b.readsBack lower, b.readsBack upper with
  | true, true =>
    -- The number lies nearer to the lower decimal when it lies below the middle of the two.
    if b.value.lt (Quotient.scale (10 * n + 5) 10 (p - 1)) then some lower else some upper
  | true, false => some lower
  | false, true => some upper
  | false, false => none

-- A decimal without trailing zeros in its digits.
def Scaled.trim (d : Scaled) : Scaled :=
  if h : d.digits ≠ 0 ∧ d.digits % 10 = 0 then trim ⟨d.digits / 10, d.exponent + 1⟩ else d
termination_by d.digits
decreasing_by omega

-- The decimal with the fewest digits that reads back; 17 digits always suffice.
def Binary.shortest (b : Binary) : Scaled :=
  match (List.range 17).findSome? fun k => b.nearest? (k + 1) with
  | some d => d.trim
  | none => ⟨0, 0⟩

end PropertyTemplates.Decimal
