import PropertyTemplates.Decimal.Numeral
import PropertyTemplates.Decimal.Shortest

namespace PropertyTemplates.Decimal

-- A 64-bit float taken apart: the magnitude of a finite number is zero or a `Binary`.
inductive Parts where
  | nan
  | infinite (negative : Bool)
  | zero (negative : Bool)
  | finite (negative : Bool) (magnitude : Binary)
deriving DecidableEq, Repr

-- The number of fractions that fit into the 52 low bits of a float.
def fractionSize : Nat := 0x10000000000000

def Parts.ofFloat (x : Float) : Parts :=
  let bits := x.toBits.toNat
  let negative := bits >>> 63 == 1
  let field : Nat := (bits >>> 52) % 2048
  let fraction : Nat := bits % fractionSize
  if field = 2047 then if fraction = 0 then .infinite negative else .nan
  else if field = 0 then
    if fraction = 0 then .zero negative else .finite negative ⟨fraction, -1074, false⟩
  else .finite negative ⟨fractionSize + fraction, (field : Int) - 1075, fraction = 0 && field != 1⟩

-- How a number is laid out: whether a whole number keeps one zero after the point, and the powers
-- of ten between which no exponent is written (none: never).
structure Layout where
  keepPoint : Bool
  positional : Option (Int × Int)
deriving DecidableEq, Repr

-- Plain text has no exponent and no point in a whole number.
def Layout.plain : Layout := ⟨false, none⟩

-- The detailed form marks every float by a point or an exponent, and writes an exponent below 1e-4
-- and from 1e16 on.
def Layout.detailed : Layout := ⟨true, some (-4, 16)⟩

-- The digits with the point at its place, zeros filling the gaps.
def Scaled.positional (d : Scaled) (keepPoint : Bool) : List Char :=
  let digits := numeral d.digits
  if 0 ≤ d.exponent then
    digits ++ List.replicate d.exponent.toNat '0' ++ if keepPoint then ['.', '0'] else []
  else
    let places := (-d.exponent).toNat
    if places < digits.length then
      digits.take (digits.length - places) ++ '.' :: digits.drop (digits.length - places)
    else '0' :: '.' :: (List.replicate (places - digits.length) '0' ++ digits)

-- One digit, the point and the other digits, and the power of ten after `e`.
def Scaled.scientific (d : Scaled) : List Char :=
  let digits := numeral d.digits
  let power := d.exponent + digits.length - 1
  let exponent := if power < 0 then '-' :: numeral power.natAbs else numeral power.natAbs
  digits.take 1 ++ (if digits.length ≤ 1 then [] else '.' :: digits.drop 1) ++ 'e' :: exponent

def Layout.magnitude (l : Layout) (b : Binary) : List Char :=
  let d := b.shortest
  match l.positional with
  | none => d.positional l.keepPoint
  | some (low, high) =>
    let power := d.exponent + (numeral d.digits).length - 1
    if low ≤ power && power < high then d.positional l.keepPoint else d.scientific

def sign (negative : Bool) : List Char := if negative then ['-'] else []

-- The text of a float: the fewest digits that read back, laid out as asked; a zero keeps its sign.
def Layout.float (l : Layout) (x : Float) : String :=
  String.ofList <| match Parts.ofFloat x with
    | .nan => ['N', 'a', 'N']
    | .infinite negative => sign negative ++ ['i', 'n', 'f']
    | .zero negative => sign negative ++ '0' :: if l.keepPoint then ['.', '0'] else []
    | .finite negative magnitude => sign negative ++ l.magnitude magnitude

end PropertyTemplates.Decimal
