/-!
# Binary floating-point numbers

A number of a format is not-a-number or a sign with an ordinal: its place among the magnitudes of
the format, counted from zero. Infinity is the last magnitude. The ordinal is also the bit pattern
without the sign bit, so the order of the magnitudes is the order of the patterns.
-/

namespace StageAtlas

/-- A format: the stored bits of the significand, and the bits of the exponent. -/
structure BinaryFormat where
  significandBits : Nat
  exponentBits : Nat

namespace BinaryFormat

def single : BinaryFormat := ⟨23, 8⟩

def double : BinaryFormat := ⟨52, 11⟩

variable (f : BinaryFormat)

def infinity : Nat := (Nat.pow 2 f.exponentBits - 1) * Nat.pow 2 f.significandBits

/-- The least positive magnitude, the unit of all others, is two to minus this. -/
def unitExponent : Nat := Nat.pow 2 (f.exponentBits - 1) - 2 + f.significandBits

def unitsPerOne : Nat := Nat.pow 2 f.unitExponent

def signBit : Nat := Nat.pow 2 (f.significandBits + f.exponentBits)

/-- The magnitude with the given ordinal, in units. Below the first power of two that fills the
significand the ordinal is the magnitude; from there on each power of two doubles the distance. -/
def units (ordinal : Nat) : Nat :=
  let full := Nat.pow 2 f.significandBits
  if ordinal < full then ordinal
  else (full + ordinal % full) * Nat.pow 2 (ordinal / full - 1)

/-- The greatest ordinal whose magnitude is at most the given number of units. -/
def ordinalBelow (count : Nat) : Nat :=
  let full := Nat.pow 2 f.significandBits
  if count < full then count
  else
    let shift := count.log2 - f.significandBits
    shift * full + count / Nat.pow 2 shift

/-- The ordinal nearest to a quotient of units; halfway between two it is the even one. What lies
beyond the largest finite magnitude becomes infinity. -/
def nearest (num den : Nat) : Nat :=
  let below := f.ordinalBelow (num / den)
  let middle := f.units below + f.units (below + 1)
  let chosen :=
    if 2 * num < middle * den then below
    else if middle * den < 2 * num then below + 1
    else if below % 2 = 0 then below
    else below + 1
  min chosen f.infinity

theorem nearest_le (num den : Nat) : f.nearest num den ≤ f.infinity := Nat.min_le_right _ _

end BinaryFormat

inductive Binary (f : BinaryFormat) where
  | nan
  | signed (negative : Bool) (ordinal : Nat) (le_infinity : ordinal ≤ f.infinity)
  deriving DecidableEq

abbrev Single := Binary .single

abbrev Double := Binary .double

namespace Binary

variable {f : BinaryFormat}

def ofRatio (negative : Bool) (num den : Nat) : Binary f :=
  .signed negative (f.nearest (num * f.unitsPerOne) den) (f.nearest_le _ _)

def ofUnits (negative : Bool) (count : Nat) : Binary f :=
  .signed negative (f.nearest count 1) (f.nearest_le _ _)

def ofNat (n : Nat) : Binary f := ofRatio false n 1

def ofInt (n : Int) : Binary f := ofRatio (n < 0) n.natAbs 1

instance (n : Nat) : OfNat (Binary f) n := ⟨ofNat n⟩

instance : Inhabited (Binary f) := ⟨ofNat 0⟩

def infinite (negative : Bool) : Binary f := .signed negative f.infinity (Nat.le_refl _)

/-- The bit pattern, or nothing for not-a-number, which has many. -/
def bits? : Binary f → Option Nat
  | nan => none
  | signed negative ordinal _ => some (if negative then f.signBit + ordinal else ordinal)

def isFinite : Binary f → Bool
  | nan => false
  | signed _ ordinal _ => ordinal < f.infinity

def isInfinite : Binary f → Bool
  | nan => false
  | signed _ ordinal _ => ordinal == f.infinity

/-- The place of a number in the order of all: zero for both zeros. -/
def rank? : Binary f → Option Int
  | nan => none
  | signed negative ordinal _ => some (if negative then -(ordinal : Int) else ordinal)

/-- The order of numbers, in which not-a-number has no place. -/
def lt (a b : Binary f) : Bool :=
  match a.rank?, b.rank? with
  | some p, some q => p < q
  | _, _ => false

def le (a b : Binary f) : Bool :=
  match a.rank?, b.rank? with
  | some p, some q => p ≤ q
  | _, _ => false

def isZero (a : Binary f) : Bool := a.rank? == some 0

/-- The number between two bounds that is nearest to this one; not-a-number stays. -/
def clamp (a low high : Binary f) : Binary f :=
  if a.lt low then low else if high.lt a then high else a

def neg : Binary f → Binary f
  | nan => nan
  | signed negative ordinal h => signed (!negative) ordinal h

instance : Neg (Binary f) := ⟨neg⟩

@[simp] theorem bits?_nan : (nan : Binary f).bits? = none := rfl

@[simp] theorem isFinite_nan : (nan : Binary f).isFinite = false := rfl

@[simp] theorem rank?_nan : (nan : Binary f).rank? = none := rfl

end Binary

end StageAtlas
