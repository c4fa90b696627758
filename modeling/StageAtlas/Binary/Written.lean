import StageAtlas.Binary.Decimal

/-!
# Written forms of decimal numbers

Plain notation writes every digit and always a point; scientific notation writes one digit before
the point and the exponent of ten after a mark.
-/

namespace StageAtlas.Decimal

def scale (d : Decimal) : Int := d.exponent + d.digits.length - 1

/-- All digits, with a point and at least one digit on either side of it. -/
def plain (d : Decimal) : List Char :=
  let digits := d.digits
  if 0 ≤ d.exponent then digits ++ List.replicate d.exponent.toNat '0' ++ ['.', '0']
  else
    let places := (-d.exponent).toNat
    if places < digits.length then
      digits.take (digits.length - places) ++ '.' :: digits.drop (digits.length - places)
    else '0' :: '.' :: (List.replicate (places - digits.length) '0' ++ digits)

def signedExponent (n : Int) : List Char :=
  (if n < 0 then '-' else '+') :: Nat.toDigits 10 n.natAbs

/-- One digit, the others after a point, and the exponent. -/
def scientific (d : Decimal) : List Char :=
  match d.digits with
  | [] => []
  | [digit] => digit :: 'e' :: signedExponent d.scale
  | digit :: others => digit :: '.' :: (others ++ 'e' :: signedExponent d.scale)

end StageAtlas.Decimal
