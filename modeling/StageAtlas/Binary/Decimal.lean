import StageAtlas.Binary.Basic

/-!
# Decimal forms of binary numbers

A decimal form is a coefficient and an exponent of ten. The shortest form of a number has the
fewest digits that read back as the number and, among those, lies nearest to it.
-/

namespace StageAtlas

/-- A magnitude: the coefficient times ten to the exponent. -/
structure Decimal where
  coefficient : Nat
  exponent : Int
  deriving DecidableEq, Repr

namespace Decimal

def digits (d : Decimal) : List Char := Nat.toDigits 10 d.coefficient

def ratio (d : Decimal) : Nat × Nat :=
  if 0 ≤ d.exponent then (d.coefficient * Nat.pow 10 d.exponent.toNat, 1)
  else (d.coefficient, Nat.pow 10 (-d.exponent).toNat)

/-- An exponent beyond which every magnitude of single or double precision has overflowed, and below
whose negative it has vanished. -/
def reach : Int := 1100

/-- The exponent of the first digit of a quotient: the greatest power of ten that is at most it. -/
def leadingExponent (num den : Nat) : Int :=
  if den ≤ num then ((Nat.toDigits 10 (num / den)).length : Int) - 1
  else
    let count := (Nat.toDigits 10 (den / num)).length
    if den ≤ num * Nat.pow 10 (count - 1) then -((count : Int) - 1) else -(count : Int)

def truncated (num den count : Nat) : Decimal :=
  let exponent := leadingExponent num den - count + 1
  let coefficient :=
    if 0 ≤ exponent then num / (den * Nat.pow 10 exponent.toNat)
    else num * Nat.pow 10 (-exponent).toNat / den
  ⟨coefficient, exponent⟩

def stripZeros : Nat → Decimal → Decimal
  | 0, d => d
  | fuel + 1, d =>
      if d.coefficient ≠ 0 ∧ d.coefficient % 10 = 0 then
        stripZeros fuel ⟨d.coefficient / 10, d.exponent + 1⟩
      else d

end Decimal

namespace Binary

variable {f : BinaryFormat}

def ofDecimal (negative : Bool) (d : Decimal) : Binary f :=
  if d.coefficient = 0 then ofRatio negative 0 1
  else if Decimal.reach < d.exponent then infinite negative
  else if d.exponent < -(Decimal.reach + d.digits.length) then ofRatio negative 0 1
  else ofRatio negative d.ratio.1 d.ratio.2

def readsBack (f : BinaryFormat) (ordinal : Nat) (d : Decimal) : Bool :=
  match (ofDecimal false d : Binary f) with
  | nan => false
  | signed _ found _ => found == ordinal

/-- Of the two forms with `count` digits on either side of a magnitude, one that reads back: the
nearer one if both do, and the even one halfway. -/
def candidate? (f : BinaryFormat) (ordinal count : Nat) : Option Decimal :=
  let num := f.units ordinal
  let den := f.unitsPerOne
  let low := Decimal.truncated num den count
  let high : Decimal := ⟨low.coefficient + 1, low.exponent⟩
  match readsBack f ordinal low, readsBack f ordinal high with
  | true, true =>
      let middle : Decimal := ⟨(low.coefficient + high.coefficient) * 5, low.exponent - 1⟩
      let (top, bottom) := middle.ratio
      if num * bottom < top * den then some low
      else if top * den < num * bottom then some high
      else if low.coefficient % 2 = 0 then some low else some high
  | true, false => some low
  | false, true => some high
  | false, false => none

def exactForm (f : BinaryFormat) (ordinal : Nat) : Decimal :=
  ⟨f.units ordinal * Nat.pow 5 f.unitExponent, -(f.unitExponent : Int)⟩

/-- The shortest form of the finite magnitude with the given ordinal. Seventeen digits are always
enough in double precision; the exact form stands for the case that they are not. -/
def shortest (f : BinaryFormat) (ordinal : Nat) : Decimal :=
  if ordinal = 0 then ⟨0, 0⟩
  else
    match (List.range 17).findSome? fun count => candidate? f ordinal (count + 1) with
    | some d => Decimal.stripZeros 20 d
    | none => exactForm f ordinal

end Binary

end StageAtlas
