import PropertyTemplates.Decimal.Numeral

namespace PropertyTemplates.Decimal

-- The float nearest to `digits · 10 ^ exponent`. Beyond 400 places on either side the answer is
-- infinity or zero, whatever the digits.
def toFloat (negative : Bool) (digits : Nat) (exponent : Int) : Float :=
  let places := exponent + (numeral digits).length
  let magnitude :=
    if digits = 0 || places < -400 then Float.ofScientific 0 false 0
    else if 400 < places then Float.ofScientific 1 false 400
    else if exponent < 0 then Float.ofScientific digits true exponent.natAbs
    else Float.ofScientific digits false exponent.natAbs
  if negative then -magnitude else magnitude

-- Splits an optional sign off; the flag tells a minus.
def splitSign : List Char → Bool × List Char
  | '-' :: rest => (true, rest)
  | '+' :: rest => (false, rest)
  | cs => (false, cs)

-- The power of ten after `e`: an optional sign and at least one digit.
def exponentPart? : List Char → Option Int
  | [] => some 0
  | c :: rest =>
    if c = 'e' || c = 'E' then
      let (negative, digits) := splitSign rest
      if digits.isEmpty || !digits.all isDigit then none
      else some (if negative then -(value digits : Int) else value digits)
    else none

-- Reads a decimal with optional sign, point and power of ten; at least one digit must stand before
-- or after the point.
def float? (cs : List Char) : Option Float :=
  let (negative, body) := splitSign cs
  let whole := body.takeWhile isDigit
  let rest := body.dropWhile isDigit
  let (fraction, tail) := match rest with
    | '.' :: after => (after.takeWhile isDigit, after.dropWhile isDigit)
    | _ => ([], rest)
  if whole.isEmpty && fraction.isEmpty then none
  else (exponentPart? tail).map fun power =>
    toFloat negative (value (whole ++ fraction)) (power - fraction.length)

end PropertyTemplates.Decimal
