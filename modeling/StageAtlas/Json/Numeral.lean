import StageAtlas.Binary.Arithmetic
import StageAtlas.Binary.Written

/-!
# Numerals of JSON

A numeral keeps what was written: sign, whole part, fraction digits and exponent. What it denotes
is a natural number of 64 bits, a negative integer of 64 bits, or a number of double precision.
-/

namespace StageAtlas.Json

/-- A written number. The fraction holds digits, the first one after the point first. -/
structure Numeral where
  negative : Bool
  whole : Nat
  fraction : List Nat
  exponent : Option Int
  deriving DecidableEq, Repr

inductive Number where
  | natural (n : Nat)
  | negative (n : Nat)
  | floating (x : Double)
  deriving DecidableEq

namespace Numeral

def wordMax : Nat := Nat.pow 2 64 - 1

def ofNat (n : Nat) : Numeral := ⟨false, n, [], none⟩

/-- The whole part without the last digits that do not fit 64 bits, and how many they are. -/
def wholeWord (n : Nat) : Nat × Nat :=
  if n ≤ wordMax then (n, 0)
  else
    let (word, dropped) := wholeWord (n / 10)
    (word, dropped + 1)
termination_by n
decreasing_by
  have : wordMax < n := by omega
  omega

/-- The word continued by fraction digits as long as it fits 64 bits, and how many it took. -/
def absorb : Nat → List Nat → Nat × Nat
  | word, [] => (word, 0)
  | word, digit :: rest =>
      if word * 10 + digit ≤ wordMax then
        let (next, taken) := absorb (word * 10 + digit) rest
        (next, taken + 1)
      else (word, 0)

/-- The leading digits as a word of 64 bits, and the exponent of ten that goes with it. -/
def significand (n : Numeral) : Nat × Int :=
  let (word, dropped) := wholeWord n.whole
  let (word, taken) := absorb word n.fraction
  (word, (dropped : Int) - taken + n.exponent.getD 0)

/-- The greatest power of ten of double precision has this exponent. -/
def greatestPower : Nat := 308

def powerOfTen (exponent : Nat) : Double := Binary.ofRatio false (Nat.pow 10 exponent) 1

/-- A number divided by a power of ten, with as many divisions as the power needs. -/
def scaleDown (x : Double) (exponent : Nat) : Double :=
  if exponent ≤ greatestPower then x / powerOfTen exponent
  else if x = 0 then x
  else scaleDown (x / powerOfTen greatestPower) (exponent - greatestPower)
termination_by exponent
decreasing_by simp only [greatestPower] at *; omega

/-- The word times a power of ten in double precision: the word is rounded first, and the result
of each operation after it. Nothing if it leaves the format. -/
def scaled? (word : Nat) (exponent : Int) : Option Double :=
  let x : Double := Binary.ofNat word
  if exponent < 0 then some (scaleDown x exponent.natAbs)
  else if exponent ≤ greatestPower then
    let product := x * powerOfTen exponent.natAbs
    if product.isFinite then some product else none
  else if word = 0 then some x
  else none

/-- The number that is denoted; nothing if it is out of the range of double precision. -/
def number? (n : Numeral) : Option Number :=
  if n.fraction = [] ∧ n.exponent = none ∧ n.negative = false ∧ n.whole ≤ wordMax then
    some (.natural n.whole)
  else if n.fraction = [] ∧ n.exponent = none ∧ n.negative = true ∧ n.whole ≠ 0 ∧
      n.whole ≤ Nat.pow 2 63 then
    some (.negative n.whole)
  else
    let (word, exponent) := n.significand
    (scaled? word exponent).map fun x => .floating (if n.negative then -x else x)

def natural? (n : Numeral) : Option Nat :=
  match n.number? with
  | some (.natural k) => some k
  | _ => none

theorem number?_ofNat {n : Nat} (h : n ≤ wordMax) : (ofNat n).number? = some (.natural n) := by
  simp [number?, ofNat, h]

theorem natural?_ofNat {n : Nat} (h : n ≤ wordMax) : (ofNat n).natural? = some n := by
  simp [natural?, number?_ofNat h]

end Numeral

namespace Number

/-- Numbers whose first digit has an exponent in this range are written in plain notation. -/
def plainFrom : Int := -5

def plainTo : Int := 16

def floatChars : Double → List Char
  | .nan => ['n', 'u', 'l', 'l']
  | .signed minus ordinal _ =>
      let d := Binary.shortest .double ordinal
      let digits := if plainFrom ≤ d.scale ∧ d.scale < plainTo then d.plain else d.scientific
      if minus then '-' :: digits else digits

/-- The one way in which a number is written out. -/
def chars : Number → List Char
  | natural n => Nat.toDigits 10 n
  | negative n => '-' :: Nat.toDigits 10 n
  | floating x => floatChars x

end Number

end StageAtlas.Json
