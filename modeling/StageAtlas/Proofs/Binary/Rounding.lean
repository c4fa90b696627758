import Mathlib.Algebra.Ring.Nat
import Mathlib.Order.Monotone.Basic
import StageAtlas.Binary.Arithmetic

/-! # Rounding

The magnitudes of a format grow with their ordinals, and counting ordinals below a number of units
is adjoint to counting units. So a quotient that is a magnitude is rounded to itself, and rounding
only depends on the quotient. A number of single precision is one of double precision too, which
rounds back to it.
-/

namespace StageAtlas

namespace BinaryFormat

variable (f : BinaryFormat)

/-! ## Magnitudes -/

theorem units_of_le {ordinal : Nat} (h : ordinal ≤ 2 ^ f.significandBits) :
    f.units ordinal = ordinal := by
  have hpos : 0 < 2 ^ f.significandBits := Nat.two_pow_pos _
  simp only [units, Nat.pow_eq]
  split
  · rfl
  · obtain rfl : ordinal = 2 ^ f.significandBits := by omega
    simp [Nat.div_self hpos]

@[simp] theorem units_zero : f.units 0 = 0 := f.units_of_le (Nat.zero_le _)

/-- The ordinals between two powers of two share a distance; the upper end belongs to the next. -/
theorem units_shift {m : Nat} (s : Nat) (hlow : 2 ^ f.significandBits ≤ m)
    (hhigh : m ≤ 2 * 2 ^ f.significandBits) :
    f.units (s * 2 ^ f.significandBits + m) = m * 2 ^ s := by
  have hpos : 0 < 2 ^ f.significandBits := Nat.two_pow_pos _
  generalize hfull : 2 ^ f.significandBits = full at *
  simp only [units, Nat.pow_eq, hfull]
  rw [if_neg (by omega)]
  rcases Nat.lt_or_ge m (2 * full) with hlt | hge
  · obtain ⟨r, rfl⟩ := Nat.exists_eq_add_of_le hlow
    have hr : r < full := by omega
    have hsplit : s * full + (full + r) = r + full * (s + 1) := by
      rw [Nat.mul_add, Nat.mul_comm full s]; omega
    rw [hsplit, Nat.add_mul_mod_self_left, Nat.add_mul_div_left _ _ hpos, Nat.mod_eq_of_lt hr,
      Nat.div_eq_of_lt hr]
    simp
  · obtain rfl : m = 2 * full := by omega
    have hsplit : s * full + 2 * full = full * (s + 2) := by
      rw [Nat.mul_add, Nat.mul_comm full s, Nat.mul_comm full 2]
    rw [hsplit, Nat.mul_mod_right, Nat.mul_div_cancel_left _ hpos]
    have hpow : 2 ^ (s + 2 - 1) = 2 * 2 ^ s := by rw [Nat.add_sub_assoc (by omega), Nat.pow_succ']
    rw [hpow, Nat.add_zero, ← Nat.mul_assoc, Nat.mul_comm full 2]

theorem le_or_exists_shift (ordinal : Nat) : ordinal < 2 ^ f.significandBits ∨
    ∃ s m, ordinal = s * 2 ^ f.significandBits + m ∧ 2 ^ f.significandBits ≤ m ∧
      m < 2 * 2 ^ f.significandBits := by
  have hpos : 0 < 2 ^ f.significandBits := Nat.two_pow_pos _
  generalize 2 ^ f.significandBits = full at *
  refine (Nat.lt_or_ge ordinal full).imp_right fun hge => ?_
  have hdiv : 1 ≤ ordinal / full := (Nat.one_le_div_iff hpos).2 hge
  have hmod := Nat.mod_lt ordinal hpos
  refine ⟨ordinal / full - 1, full + ordinal % full, ?_, by omega, by omega⟩
  have hsplit := Nat.div_add_mod' ordinal full
  obtain ⟨q, hq⟩ : ∃ q, ordinal / full = q + 1 := ⟨ordinal / full - 1, by omega⟩
  rw [hq] at hsplit ⊢
  rw [Nat.succ_mul] at hsplit
  simp only [Nat.add_sub_cancel]
  omega

theorem exists_eq_units (ordinal : Nat) :
    ∃ m s, f.units ordinal = m * 2 ^ s ∧ m < 2 * 2 ^ f.significandBits := by
  rcases f.le_or_exists_shift ordinal with hlt | ⟨s, m, rfl, hlow, hhigh⟩
  · exact ⟨ordinal, 0, by rw [f.units_of_le hlt.le, Nat.pow_zero, Nat.mul_one], by omega⟩
  · exact ⟨m, s, f.units_shift s hlow hhigh.le, hhigh⟩

theorem units_lt_succ (ordinal : Nat) : f.units ordinal < f.units (ordinal + 1) := by
  rcases f.le_or_exists_shift ordinal with hlt | ⟨s, m, rfl, hlow, hhigh⟩
  · rw [f.units_of_le hlt.le, f.units_of_le hlt]
    exact Nat.lt_succ_self _
  · rw [f.units_shift s hlow hhigh.le, Nat.add_assoc, f.units_shift s (by omega) hhigh]
    exact Nat.mul_lt_mul_of_pos_right (Nat.lt_succ_self m) (Nat.two_pow_pos s)

theorem strictMono_units : StrictMono f.units := strictMono_nat_of_lt_succ f.units_lt_succ

/-! ## The ordinal below a number of units -/

theorem units_ordinalBelow_le_lt (count : Nat) :
    f.units (f.ordinalBelow count) ≤ count ∧ count < f.units (f.ordinalBelow count + 1) := by
  simp only [ordinalBelow, Nat.pow_eq]
  split
  · rename_i hlt
    rw [f.units_of_le hlt.le, f.units_of_le hlt]
    exact ⟨Nat.le_refl _, Nat.lt_succ_self _⟩
  · rename_i hge
    have hne : count ≠ 0 := by have := Nat.two_pow_pos f.significandBits; omega
    have hbits : f.significandBits ≤ count.log2 := (Nat.le_log2 hne).2 (Nat.not_lt.1 hge)
    obtain ⟨s, hs⟩ := Nat.exists_eq_add_of_le hbits
    rw [hs, Nat.add_sub_cancel_left]
    have hlow : 2 ^ f.significandBits ≤ count / 2 ^ s := by
      rw [Nat.le_div_iff_mul_le (Nat.two_pow_pos s), ← Nat.pow_add, ← hs]
      exact Nat.log2_self_le hne
    have hhigh : count / 2 ^ s < 2 * 2 ^ f.significandBits := by
      rw [Nat.div_lt_iff_lt_mul (Nat.two_pow_pos s), ← Nat.pow_succ', ← Nat.pow_add,
        Nat.succ_add, ← hs]
      exact Nat.lt_log2_self
    rw [f.units_shift s hlow hhigh.le, Nat.add_assoc, f.units_shift s (by omega) hhigh]
    refine ⟨Nat.div_mul_le_self _ _, ?_⟩
    rw [Nat.mul_comm]
    exact Nat.lt_mul_div_succ _ (Nat.two_pow_pos s)

theorem le_ordinalBelow_iff (ordinal count : Nat) :
    ordinal ≤ f.ordinalBelow count ↔ f.units ordinal ≤ count := by
  obtain ⟨hle, hlt⟩ := f.units_ordinalBelow_le_lt count
  constructor
  · exact fun h => (f.strictMono_units.monotone h).trans hle
  · exact fun h => Nat.le_of_lt_succ (f.strictMono_units.lt_iff_lt.1 (h.trans_lt hlt))

theorem ordinalBelow_units (ordinal : Nat) : f.ordinalBelow (f.units ordinal) = ordinal :=
  eq_of_forall_le_iff fun other => by
    rw [le_ordinalBelow_iff, f.strictMono_units.le_iff_le]

theorem exists_units_eq {m : Nat} (s : Nat) (h : m < 2 * 2 ^ f.significandBits) :
    ∃ ordinal, f.units ordinal = m * 2 ^ s := by
  induction s generalizing m with
  | zero =>
      rcases Nat.le_total m (2 ^ f.significandBits) with hle | hge
      · exact ⟨m, by rw [f.units_of_le hle, Nat.pow_zero, Nat.mul_one]⟩
      · exact ⟨_, f.units_shift 0 hge h.le⟩
  | succ s ih =>
      rcases Nat.lt_or_ge m (2 ^ f.significandBits) with hlt | hge
      · obtain ⟨ordinal, ho⟩ := ih (Nat.mul_lt_mul_of_pos_left hlt Nat.two_pos)
        exact ⟨ordinal, by rw [ho, Nat.pow_succ', ← Nat.mul_assoc, Nat.mul_comm 2 m]⟩
      · exact ⟨_, f.units_shift (s + 1) hge h.le⟩

/-! ## The nearest ordinal -/

variable {num den : Nat}

theorem nearest_mul_right {k : Nat} (hk : 0 < k) :
    f.nearest (num * k) (den * k) = f.nearest num den := by
  simp only [nearest, Nat.mul_div_mul_right _ _ hk, ← Nat.mul_assoc, Nat.mul_lt_mul_right hk]

theorem nearest_congr {num' den' : Nat} (hden : 0 < den) (hden' : 0 < den')
    (h : num * den' = num' * den) : f.nearest num den = f.nearest num' den' := by
  rw [← f.nearest_mul_right hden', h, Nat.mul_comm den den', f.nearest_mul_right hden]

theorem nearest_units_mul {ordinal : Nat} (hordinal : ordinal ≤ f.infinity) (hden : 0 < den) :
    f.nearest (f.units ordinal * den) den = ordinal := by
  have hmiddle : 2 * (f.units ordinal * den) < (f.units ordinal + f.units (ordinal + 1)) * den := by
    have hlt := Nat.mul_lt_mul_of_pos_right (f.units_lt_succ ordinal) hden
    rw [Nat.add_mul]
    omega
  simp only [nearest, Nat.mul_div_cancel _ hden, ordinalBelow_units]
  rw [if_pos hmiddle, Nat.min_eq_left hordinal]

theorem nearest_of_overflow (hden : 0 < den) (h : f.units f.infinity * den ≤ num) :
    f.nearest num den = f.infinity := by
  have hbelow : f.infinity ≤ f.ordinalBelow (num / den) :=
    (f.le_ordinalBelow_iff _ _).2 ((Nat.le_div_iff_mul_le hden).2 h)
  refine Nat.min_eq_right ?_
  grind

theorem nearest_of_underflow (h : 2 * num < den) : f.nearest num den = 0 := by
  have hquotient : num / den = 0 := Nat.div_eq_of_lt (by omega)
  have hone : f.units 1 = 1 := f.units_of_le Nat.one_le_two_pow
  have hbelow : f.ordinalBelow 0 = 0 := by
    rw [← Nat.le_zero, ← Nat.lt_succ_iff, ← Nat.not_le, le_ordinalBelow_iff, hone]
    decide
  simp only [nearest, hquotient, hbelow, units_zero, hone]
  rw [if_pos (by omega), Nat.min_eq_left (Nat.zero_le _)]

theorem unitsPerOne_pos : 0 < f.unitsPerOne := Nat.two_pow_pos _

/-- Infinity stands where the next power of two would. -/
theorem units_infinity (h : 2 ≤ f.exponentBits) :
    f.units f.infinity = 2 ^ (f.significandBits + (2 ^ f.exponentBits - 2)) := by
  have hfour : 2 ^ 2 ≤ 2 ^ f.exponentBits := Nat.pow_le_pow_right Nat.two_pos h
  have hsplit : f.infinity =
      (2 ^ f.exponentBits - 2) * 2 ^ f.significandBits + 2 ^ f.significandBits := by
    rw [infinity, Nat.pow_eq, Nat.pow_eq, ← Nat.succ_mul]
    congr 1
    omega
  rw [hsplit, f.units_shift _ (Nat.le_refl _) (by omega), Nat.pow_add]

/-- The numbers of one format are numbers of another one. -/
structure Within (f g : BinaryFormat) : Prop where
  significand_le : f.significandBits ≤ g.significandBits
  unit_le : f.unitExponent ≤ g.unitExponent
  infinity_le :
    f.units f.infinity * 2 ^ (g.unitExponent - f.unitExponent) ≤ g.units g.infinity

theorem single_within_double : Within single double where
  significand_le := by decide
  unit_le := by decide
  infinity_le := by
    rw [units_infinity _ (by decide), units_infinity _ (by decide), ← Nat.pow_add]
    exact Nat.pow_le_pow_right Nat.two_pos (by decide)

end BinaryFormat

namespace Binary

open BinaryFormat

variable {f g : BinaryFormat} {num den : Nat}

theorem ofRatio_congr (negative : Bool) {num' den' : Nat} (hden : 0 < den) (hden' : 0 < den')
    (h : num * den' = num' * den) :
    (ofRatio negative num den : Binary f) = ofRatio negative num' den' := by
  have hunits : num * f.unitsPerOne * den' = num' * f.unitsPerOne * den := by
    rw [Nat.mul_right_comm, h, Nat.mul_right_comm]
  simp only [ofRatio, f.nearest_congr hden hden' hunits]

theorem ofRatio_eq_signed (negative : Bool) {ordinal : Nat} (hordinal : ordinal ≤ f.infinity)
    (hden : 0 < den) (h : num * f.unitsPerOne = f.units ordinal * den) :
    (ofRatio negative num den : Binary f) = signed negative ordinal hordinal := by
  simp only [ofRatio, h, f.nearest_units_mul hordinal hden]

theorem ofRatio_zero (negative : Bool) (hden : 0 < den) :
    (ofRatio negative 0 den : Binary f) = signed negative 0 (Nat.zero_le _) :=
  ofRatio_eq_signed negative _ hden (by simp)

theorem unitsPerOne_mul_pow (h : f.unitExponent ≤ g.unitExponent) :
    2 ^ (g.unitExponent - f.unitExponent) * f.unitsPerOne = g.unitsPerOne := by
  rw [unitsPerOne, unitsPerOne, Nat.pow_eq, Nat.pow_eq, ← Nat.pow_add, Nat.sub_add_cancel h]

/-- A finite number of one format as a number of a format that has it. -/
theorem exists_convert_eq (hwithin : Within f g) (negative : Bool) {ordinal : Nat}
    (hle : ordinal ≤ f.infinity) (hfinite : ordinal < f.infinity) :
    ∃ (other : Nat) (h : other ≤ g.infinity), other < g.infinity ∧
      g.units other = f.units ordinal * 2 ^ (g.unitExponent - f.unitExponent) ∧
      (signed negative ordinal hle : Binary f).convert = (signed negative other h : Binary g) := by
  obtain ⟨m, s, hunits, hm⟩ := f.exists_eq_units ordinal
  have hfull := Nat.pow_le_pow_right Nat.two_pos hwithin.significand_le
  obtain ⟨other, hother⟩ :=
    g.exists_units_eq (s + (g.unitExponent - f.unitExponent)) (hm.trans_le (by omega))
  rw [Nat.pow_add, ← Nat.mul_assoc, ← hunits] at hother
  have hlt : other < g.infinity := by
    rw [← g.strictMono_units.lt_iff_lt, hother]
    exact (Nat.mul_lt_mul_of_pos_right (f.strictMono_units hfinite) (Nat.two_pow_pos _)).trans_le
      hwithin.infinity_le
  refine ⟨other, hlt.le, hlt, hother, ?_⟩
  rw [convert, if_neg hfinite.ne]
  refine ofRatio_eq_signed negative hlt.le f.unitsPerOne_pos ?_
  rw [hother, Nat.mul_assoc, unitsPerOne_mul_pow hwithin.unit_le]

/-- What a larger format takes over it gives back. -/
theorem convert_convert (hwithin : Within f g) {x : Binary f} (hx : x.isFinite = true) :
    ((x.convert : Binary g).convert : Binary f) = x := by
  cases x with
  | nan => rfl
  | signed negative ordinal hle =>
      obtain ⟨other, _, hlt, hother, hconvert⟩ :=
        exists_convert_eq hwithin negative hle (of_decide_eq_true hx)
      rw [hconvert, convert, if_neg hlt.ne]
      refine ofRatio_eq_signed negative hle g.unitsPerOne_pos ?_
      rw [hother, Nat.mul_assoc, unitsPerOne_mul_pow hwithin.unit_le]

theorem isFinite_convert (hwithin : Within f g) {x : Binary f} (hx : x.isFinite = true) :
    (x.convert : Binary g).isFinite = true := by
  cases x with
  | nan => exact hx
  | signed negative ordinal hle =>
      obtain ⟨other, _, hlt, -, hconvert⟩ :=
        exists_convert_eq hwithin negative hle (of_decide_eq_true hx)
      rw [hconvert]
      exact decide_eq_true hlt

end Binary

end StageAtlas
