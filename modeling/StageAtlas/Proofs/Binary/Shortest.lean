import Mathlib.Tactic.Ring
import StageAtlas.Binary.Decimal
import StageAtlas.Proofs.Binary.Rounding

/-! # The shortest decimal form

A decimal form is read by rounding a quotient of powers of ten, also where the reader takes a short
cut because the exponent is out of reach. So forms of one value are read alike, and the shortest
form of a magnitude is read as the magnitude.
-/

namespace StageAtlas

open Decimal (reach)

/-- The exponents that are out of reach are those of numbers that overflow or vanish. -/
structure BinaryFormat.InReach (f : BinaryFormat) : Prop where
  overflow : f.units f.infinity ≤ 10 ^ (reach.toNat + 1) * f.unitsPerOne
  underflow : 2 * f.unitsPerOne ≤ 10 ^ (reach.toNat + 1)

theorem BinaryFormat.inReach_of_le {f : BinaryFormat} (hbits : 2 ≤ f.exponentBits)
    (hoverflow : f.significandBits + (2 ^ f.exponentBits - 2) ≤ reach.toNat + 1 + f.unitExponent)
    (hunderflow : f.unitExponent ≤ reach.toNat) : f.InReach := by
  have hten (n : Nat) : 2 ^ n ≤ 10 ^ n := Nat.pow_le_pow_left (by decide) n
  constructor
  · rw [units_infinity _ hbits, unitsPerOne, Nat.pow_eq]
    calc 2 ^ (f.significandBits + (2 ^ f.exponentBits - 2))
        ≤ 2 ^ (reach.toNat + 1 + f.unitExponent) := Nat.pow_le_pow_right Nat.two_pos hoverflow
      _ = 2 ^ (reach.toNat + 1) * 2 ^ f.unitExponent := Nat.pow_add ..
      _ ≤ 10 ^ (reach.toNat + 1) * 2 ^ f.unitExponent := Nat.mul_le_mul_right _ (hten _)
  · rw [unitsPerOne, Nat.pow_eq, ← Nat.pow_succ']
    calc 2 ^ (f.unitExponent + 1)
        ≤ 2 ^ (reach.toNat + 1) := Nat.pow_le_pow_right Nat.two_pos (Nat.succ_le_succ hunderflow)
      _ ≤ 10 ^ (reach.toNat + 1) := hten _

theorem BinaryFormat.inReach_double : double.InReach :=
  inReach_of_le (by decide) (by decide) (by decide)

namespace Binary

variable {f : BinaryFormat}

/-! ## Reading decimal forms -/

theorem ten_pow_pos (n : Nat) : 0 < 10 ^ n := Nat.pow_pos (by decide)

section InReach

variable (hf : f.InReach) {coefficient a b : Nat}
include hf

theorem ofRatio_of_overflow (negative : Bool) (hpos : 0 < coefficient)
    (h : reach.toNat + 1 + b ≤ a) :
    (ofRatio negative (coefficient * 10 ^ a) (10 ^ b) : Binary f) = infinite negative := by
  have hoverflow : f.units f.infinity * 10 ^ b ≤ coefficient * 10 ^ a * f.unitsPerOne :=
    calc f.units f.infinity * 10 ^ b
        ≤ 10 ^ (reach.toNat + 1) * f.unitsPerOne * 10 ^ b := Nat.mul_le_mul_right _ hf.overflow
      _ = 10 ^ (reach.toNat + 1 + b) * f.unitsPerOne := by rw [Nat.pow_add]; ring
      _ ≤ coefficient * 10 ^ a * f.unitsPerOne := Nat.mul_le_mul_right _
          ((Nat.pow_le_pow_right (by decide) h).trans (Nat.le_mul_of_pos_left _ hpos))
  simp only [ofRatio, infinite, f.nearest_of_overflow (ten_pow_pos b) hoverflow]

theorem ofRatio_of_underflow (negative : Bool) {digits : Nat} (hdigits : coefficient < 10 ^ digits)
    (h : digits + (reach.toNat + 1) + a ≤ b) :
    (ofRatio negative (coefficient * 10 ^ a) (10 ^ b) : Binary f) = ofRatio negative 0 1 := by
  have hunderflow : 2 * (coefficient * 10 ^ a * f.unitsPerOne) < 10 ^ b :=
    calc 2 * (coefficient * 10 ^ a * f.unitsPerOne)
        = coefficient * (2 * f.unitsPerOne * 10 ^ a) := by ring
      _ < 10 ^ digits * (2 * f.unitsPerOne * 10 ^ a) := Nat.mul_lt_mul_of_pos_right hdigits
          (Nat.mul_pos (Nat.mul_pos Nat.two_pos f.unitsPerOne_pos) (ten_pow_pos a))
      _ ≤ 10 ^ digits * (10 ^ (reach.toNat + 1) * 10 ^ a) :=
          Nat.mul_le_mul_left _ (Nat.mul_le_mul_right _ hf.underflow)
      _ = 10 ^ (digits + (reach.toNat + 1) + a) := by
          rw [Nat.pow_add _ _ a, Nat.pow_add _ digits, Nat.mul_assoc]
      _ ≤ 10 ^ b := Nat.pow_le_pow_right (by decide) h
  have hnone : 2 * (0 * f.unitsPerOne) < 1 := by simp
  simp only [ofRatio, f.nearest_of_underflow hunderflow, f.nearest_of_underflow hnone]

/-- A form is the quotient of its coefficient with some powers of ten, whichever they are. -/
theorem ofDecimal_eq_ofRatio (negative : Bool) (d : Decimal) (h : d.exponent = a - b) :
    (ofDecimal negative d : Binary f) = ofRatio negative (d.coefficient * 10 ^ a) (10 ^ b) := by
  have hreach : (reach.toNat : Int) = reach := by decide
  unfold ofDecimal
  split
  · rename_i hzero
    exact ofRatio_congr negative Nat.one_pos (ten_pow_pos b) (by rw [hzero]; simp)
  · rename_i hcoefficient
    split
    · exact (ofRatio_of_overflow hf negative (Nat.pos_of_ne_zero hcoefficient) (by omega)).symm
    · split
      · have hdigits : d.coefficient < 10 ^ d.digits.length :=
          (Nat.length_toDigits_le_iff (by decide) Nat.length_toDigits_pos).1 (Nat.le_refl _)
        exact (ofRatio_of_underflow hf negative hdigits (by omega)).symm
      · simp only [Decimal.ratio, Nat.pow_eq]
        split
        · refine ofRatio_congr negative Nat.one_pos (ten_pow_pos b) ?_
          rw [Nat.mul_one, Nat.mul_assoc, ← Nat.pow_add]
          congr 2
          omega
        · refine ofRatio_congr negative (ten_pow_pos _) (ten_pow_pos b) ?_
          rw [Nat.mul_assoc, ← Nat.pow_add]
          congr 2
          omega

theorem ofDecimal_mul_pow (negative : Bool) (coefficient k : Nat) (exponent : Int) :
    (ofDecimal negative ⟨coefficient * 10 ^ k, exponent - k⟩ : Binary f) =
      ofDecimal negative ⟨coefficient, exponent⟩ := by
  rw [ofDecimal_eq_ofRatio (a := exponent.toNat) (b := (-exponent).toNat + k) hf negative _
      (by simp only; omega),
    ofDecimal_eq_ofRatio (a := exponent.toNat) (b := (-exponent).toNat) hf negative _
      (by simp only; omega)]
  refine ofRatio_congr negative (ten_pow_pos _) (ten_pow_pos _) ?_
  simp only [Nat.pow_add]
  ring

theorem ofDecimal_stripZeros (negative : Bool) (fuel : Nat) (d : Decimal) :
    (ofDecimal negative (d.stripZeros fuel) : Binary f) = ofDecimal negative d := by
  induction fuel generalizing d with
  | zero => rfl
  | succ fuel ih =>
      rw [Decimal.stripZeros]
      split
      · rename_i hzero
        have hshift := ofDecimal_mul_pow hf negative (d.coefficient / 10) 1 (d.exponent + 1)
        have hcoefficient : d.coefficient / 10 * 10 ^ 1 = d.coefficient := by omega
        rw [ih, ← hshift, hcoefficient, Nat.cast_one, add_sub_cancel_right]
      · rfl

theorem ofDecimal_eq_signed {d : Decimal} {sign : Bool} {ordinal : Nat}
    {h : ordinal ≤ f.infinity} (hread : (ofDecimal false d : Binary f) = signed sign ordinal h)
    (negative : Bool) : (ofDecimal negative d : Binary f) = signed negative ordinal h := by
  have hexponent : d.exponent = d.exponent.toNat - (-d.exponent).toNat := by omega
  rw [ofDecimal_eq_ofRatio hf _ d hexponent] at hread ⊢
  simp only [ofRatio, signed.injEq] at hread ⊢
  exact ⟨trivial, hread.2⟩

/-! ## The shortest form -/

omit hf in
theorem readsBack_of_candidate? {ordinal count : Nat} {d : Decimal}
    (h : candidate? f ordinal count = some d) : readsBack f ordinal d = true := by
  simp only [candidate?] at h
  split at h <;> grind

theorem ofDecimal_of_readsBack {ordinal : Nat} {d : Decimal}
    (h : readsBack f ordinal d = true) (hle : ordinal ≤ f.infinity) (negative : Bool) :
    (ofDecimal negative d : Binary f) = signed negative ordinal hle := by
  rw [readsBack] at h
  split at h
  · cases h
  · rename_i sign found _ hread
    obtain rfl : found = ordinal := eq_of_beq h
    exact ofDecimal_eq_signed hf hread negative

theorem ofDecimal_exactForm {ordinal : Nat} (hle : ordinal ≤ f.infinity) (negative : Bool) :
    (ofDecimal negative (exactForm f ordinal) : Binary f) = signed negative ordinal hle := by
  rw [ofDecimal_eq_ofRatio (a := 0) (b := f.unitExponent) hf negative _ (by simp [exactForm])]
  refine ofRatio_eq_signed negative hle (Nat.pow_pos (by decide)) ?_
  have hten : 5 ^ f.unitExponent * 2 ^ f.unitExponent = 10 ^ f.unitExponent := by
    rw [← Nat.mul_pow]
  rw [exactForm, BinaryFormat.unitsPerOne, Nat.pow_eq, Nat.pow_eq, Nat.pow_zero, Nat.mul_one,
    Nat.mul_assoc, hten]

theorem ofDecimal_shortest {ordinal : Nat} (hle : ordinal ≤ f.infinity) (negative : Bool) :
    (ofDecimal negative (shortest f ordinal) : Binary f) = signed negative ordinal hle := by
  rw [shortest]
  split
  · subst ordinal
    exact ofRatio_zero negative Nat.one_pos
  · split
    · rename_i d hfound
      obtain ⟨count, -, hcandidate⟩ := List.exists_of_findSome?_eq_some hfound
      rw [ofDecimal_stripZeros hf]
      exact ofDecimal_of_readsBack hf (readsBack_of_candidate? hcandidate) hle negative
    · exact ofDecimal_exactForm hf hle negative

/-- Only zero is written with the coefficient zero, and then without an exponent. -/
theorem exponent_shortest {ordinal : Nat} (hle : ordinal ≤ f.infinity)
    (h : (shortest f ordinal).coefficient = 0) : (shortest f ordinal).exponent = 0 := by
  have hread := ofDecimal_shortest hf hle false
  rw [ofDecimal, if_pos h, ofRatio_zero false Nat.one_pos, signed.injEq] at hread
  rw [shortest, if_pos hread.2.symm]

end InReach

end Binary

end StageAtlas
