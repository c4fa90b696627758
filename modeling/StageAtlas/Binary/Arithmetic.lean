import StageAtlas.Binary.Basic

/-!
# Arithmetic of binary floating-point numbers

Each operation takes the exact result and rounds it once.
-/

namespace StageAtlas.Binary

variable {f g : BinaryFormat}

/-- The sum. Zeros of both signs add up to the positive one. -/
def add : Binary f → Binary f → Binary f
  | nan, _ => nan
  | _, nan => nan
  | signed na oa ha, signed nb ob hb =>
      if oa = f.infinity then
        if ob = f.infinity ∧ na ≠ nb then nan else signed na oa ha
      else if ob = f.infinity then signed nb ob hb
      else if na = nb then ofUnits na (f.units oa + f.units ob)
      else if ob < oa then ofUnits na (f.units oa - f.units ob)
      else if oa < ob then ofUnits nb (f.units ob - f.units oa)
      else ofUnits false 0

def sub (a b : Binary f) : Binary f := a.add b.neg

def mul : Binary f → Binary f → Binary f
  | nan, _ => nan
  | _, nan => nan
  | signed na oa _, signed nb ob _ =>
      if oa = f.infinity ∨ ob = f.infinity then
        if oa = 0 ∨ ob = 0 then nan else infinite (na != nb)
      else
        signed (na != nb) (f.nearest (f.units oa * f.units ob) f.unitsPerOne) (f.nearest_le _ _)

def div : Binary f → Binary f → Binary f
  | nan, _ => nan
  | _, nan => nan
  | signed na oa _, signed nb ob _ =>
      if oa = f.infinity then
        if ob = f.infinity then nan else infinite (na != nb)
      else if ob = f.infinity then ofUnits (na != nb) 0
      else if ob = 0 then
        if oa = 0 then nan else infinite (na != nb)
      else ofRatio (na != nb) (f.units oa) (f.units ob)

instance : Add (Binary f) := ⟨add⟩
instance : Sub (Binary f) := ⟨sub⟩
instance : Mul (Binary f) := ⟨mul⟩
instance : Div (Binary f) := ⟨div⟩

def convert : Binary f → Binary g
  | nan => nan
  | signed negative ordinal _ =>
      if ordinal = f.infinity then infinite negative
      else ofRatio negative (f.units ordinal) f.unitsPerOne

/-- The integer square root by halving: `count` binary digits, the highest first. -/
def rootDigits (n : Nat) : Nat → Nat → Nat
  | 0, root => root
  | count + 1, root =>
      let next := root + Nat.pow 2 count
      rootDigits n count (if next * next ≤ n then next else root)

def floorRoot (n : Nat) : Nat := rootDigits n (n.log2 / 2 + 1) 0

/-- The square root of a magnitude that is not negative. The root is taken with spare digits and a
last one that tells whether it is exact, so the one rounding that follows is right. -/
def sqrt : Binary f → Binary f
  | nan => nan
  | signed negative ordinal h =>
      if ordinal = 0 then signed negative ordinal h
      else if negative then nan
      else if ordinal = f.infinity then infinite false
      else
        let spare := f.significandBits + 2
        let square := f.units ordinal * f.unitsPerOne * Nat.pow 2 (2 * spare)
        let root := floorRoot square
        let sticky := if root * root = square then 0 else 1
        signed false (f.nearest (2 * root + sticky) (2 * Nat.pow 2 spare)) (f.nearest_le _ _)

/-- The length of a vector of single precision: the root is taken in double precision, in which the
squares are exact, and rounded back. -/
def hypot (x y : Single) : Single :=
  if x.isInfinite || y.isInfinite then infinite false
  else
    let a : Double := x.convert
    let b : Double := y.convert
    (a * a + b * b).sqrt.convert

end StageAtlas.Binary
