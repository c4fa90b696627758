import StageAtlas.Proofs.Binary.Rounding

/-! # The accuracy of rounding

Rounding keeps the order of what is rounded, and changes a number of units by no more than its share
of half a last place. A number overflows from the middle between the largest finite magnitude and
infinity on. Sums and products of numbers that are not negative are their exact results, rounded.
-/

namespace StageAtlas

namespace BinaryFormat

variable (f : BinaryFormat)

/-- The step to the next magnitude is one unit, or the share of the last place. -/
theorem exists_units_succ_eq (ordinal : Nat) :
    ∃ step, f.units (ordinal + 1) = f.units ordinal + step ∧
      (step = 1 ∨ 2 ^ f.significandBits * step ≤ f.units ordinal) := by
  rcases f.le_or_exists_shift ordinal with hlt | ⟨s, m, rfl, hlow, hhigh⟩
  · exact ⟨1, by rw [f.units_of_le hlt.le, f.units_of_le hlt], .inl rfl⟩
  · refine ⟨2 ^ s, ?_, .inr ?_⟩
    · rw [f.units_shift s hlow hhigh.le, Nat.add_assoc, f.units_shift s (by omega) hhigh,
        Nat.add_one_mul]
    · rw [f.units_shift s hlow hhigh.le]
      exact Nat.mul_le_mul_right _ hlow

theorem ordinalBelow_mono {a b : Nat} (h : a ≤ b) : f.ordinalBelow a ≤ f.ordinalBelow b := by
  rw [le_ordinalBelow_iff]
  exact (f.units_ordinalBelow_le_lt a).1.trans h

theorem nearest_mono {num num' : Nat} (h : num ≤ num') (den : Nat) :
    f.nearest num den ≤ f.nearest num' den := by
  have hbelow := f.ordinalBelow_mono (Nat.div_le_div_right (c := den) h)
  simp only [nearest]
  generalize f.ordinalBelow (num / den) = below at hbelow ⊢
  generalize f.ordinalBelow (num' / den) = below' at hbelow ⊢
  apply Nat.le_min_of_le_of_le _ (Nat.min_le_right _ _)
  apply (Nat.min_le_left _ _).trans
  rcases Nat.eq_or_lt_of_le hbelow with rfl | hlt
  · generalize (f.units below + f.units (below + 1)) * den = middle
    split <;> split <;> grind
  · -- Whatever is chosen for the smaller one is at most what lies below the greater one.
    grind

/-- A number of units is rounded to a neighbour, and by no more than half of the step between. -/
theorem nearest_one_cases (count : Nat) :
    ∃ below step, f.units (below + 1) = f.units below + step ∧
      (step = 1 ∨ 2 ^ f.significandBits * step ≤ f.units below) ∧
      f.units below ≤ count ∧ count < f.units below + step ∧
      (2 * count ≤ 2 * f.units below + step ∧ f.nearest count 1 = min below f.infinity ∨
        2 * f.units below + step ≤ 2 * count ∧ f.nearest count 1 = min (below + 1) f.infinity) := by
  obtain ⟨hle, hlt⟩ := f.units_ordinalBelow_le_lt count
  obtain ⟨step, hstep, hsmall⟩ := f.exists_units_succ_eq (f.ordinalBelow count)
  refine ⟨f.ordinalBelow count, step, hstep, hsmall, hle, by omega, ?_⟩
  simp only [nearest, Nat.div_one, Nat.mul_one, hstep]
  grind

/-- Rounding changes a number of units at most by half a last place, as a share of the number. -/
theorem units_nearest_one {count : Nat} (h : f.nearest count 1 < f.infinity) :
    2 ^ (f.significandBits + 1) * f.units (f.nearest count 1) ≤
        2 ^ (f.significandBits + 1) * count + count ∧
      2 ^ (f.significandBits + 1) * count ≤
        2 ^ (f.significandBits + 1) * f.units (f.nearest count 1) + count := by
  obtain ⟨below, step, hstep, hsmall, hle, hlt, hcases⟩ := f.nearest_one_cases count
  obtain ⟨gone, rfl⟩ := Nat.exists_eq_add_of_le hle
  obtain ⟨left, rfl⟩ := Nat.exists_eq_add_of_le (show gone ≤ step by omega)
  -- What is lost is nothing where the step is one unit, and else at most half of a small step.
  have hlost : ∀ lost, 2 * lost ≤ gone + left → lost = 0 ∨
      2 ^ (f.significandBits + 1) * lost ≤ f.units below := by
    intro lost hhalf
    rcases hsmall with hone | hshare
    · exact .inl (by omega)
    · have hmul := Nat.mul_le_mul_left (2 ^ f.significandBits) hhalf
      rw [Nat.pow_succ, Nat.mul_assoc]
      exact .inr (hmul.trans hshare)
  generalize 2 ^ (f.significandBits + 1) = share at hlost ⊢
  rcases hcases with ⟨hnear, hnearest⟩ | ⟨hnear, hnearest⟩
  · have hbelow : f.nearest (f.units below + gone) 1 = below := by omega
    rw [hbelow, Nat.mul_add]
    rcases hlost gone (by omega) with rfl | hshare <;> omega
  · have habove : f.nearest (f.units below + gone) 1 = below + 1 := by omega
    rw [habove, hstep, Nat.mul_add, Nat.mul_add, Nat.mul_add]
    rcases hlost left (by omega) with rfl | hshare <;> omega

theorem nearest_one_lt {a b : Nat} (hfinite : f.nearest b 1 < f.infinity)
    (hapart : 2 ^ (f.significandBits + 1) * a + (a + b) < 2 ^ (f.significandBits + 1) * b) :
    f.nearest a 1 < f.nearest b 1 := by
  have hle : a ≤ b := Nat.le_of_mul_le_mul_left (by omega) (Nat.two_pow_pos (f.significandBits + 1))
  refine Nat.lt_of_le_of_ne (f.nearest_mono hle 1) fun hsame => ?_
  obtain ⟨habove, -⟩ := f.units_nearest_one (hsame ▸ hfinite)
  obtain ⟨-, hbelow⟩ := f.units_nearest_one hfinite
  rw [hsame] at habove
  omega

/-- A number of units overflows from the middle between the last two magnitudes on. -/
theorem nearest_one_lt_infinity_iff (hpos : 0 < f.infinity) (heven : f.infinity % 2 = 0)
    (count : Nat) :
    f.nearest count 1 < f.infinity ↔
      2 * count < f.units (f.infinity - 1) + f.units f.infinity := by
  obtain ⟨last, hlast⟩ : ∃ last, f.infinity = last + 1 := ⟨f.infinity - 1, by omega⟩
  have hodd : last % 2 = 1 := by omega
  have hbelow : ∀ ordinal, ordinal ≤ f.ordinalBelow count ↔ f.units ordinal ≤ count :=
    fun ordinal => f.le_ordinalBelow_iff ordinal count
  have hgrow := f.units_lt_succ last
  simp only [nearest, Nat.div_one, Nat.mul_one, hlast, Nat.add_sub_cancel]
  rcases Nat.lt_trichotomy (f.ordinalBelow count) last with hlt | heq | hgt
  · have hcount := (not_congr (hbelow last)).1 (by omega)
    grind
  · rw [heq]
    grind
  · have hcount := (hbelow (last + 1)).1 hgt
    grind

/-! ## Small whole numbers -/

/-- A whole number that fits the significand is a magnitude, if the format reaches so far. -/
theorem units_nearest_mul_unitsPerOne {n : Nat} (h : n < 2 * 2 ^ f.significandBits)
    (hreach : 2 * 2 ^ f.significandBits * f.unitsPerOne ≤ f.units f.infinity) :
    f.units (f.nearest (n * f.unitsPerOne) 1) = n * f.unitsPerOne := by
  obtain ⟨ordinal, hordinal⟩ := f.exists_units_eq f.unitExponent h
  have hunits : f.units ordinal = n * f.unitsPerOne := hordinal
  have hle : ordinal ≤ f.infinity := by
    rw [← f.strictMono_units.le_iff_le, hunits]
    exact (Nat.mul_le_mul_right _ h.le).trans hreach
  have hnearest := f.nearest_units_mul hle Nat.one_pos
  rw [Nat.mul_one, hunits] at hnearest
  rw [hnearest, hunits]

/-! ## Sums and products of magnitudes -/

def sum (a b : Nat) : Nat := f.nearest (f.units a + f.units b) 1

def product (a b : Nat) : Nat :=
  if a = f.infinity then f.infinity else f.nearest (f.units a * f.units b) f.unitsPerOne

theorem product_le (a b : Nat) : f.product a b ≤ f.infinity := by
  unfold product
  split
  · exact Nat.le_refl _
  · exact f.nearest_le _ _

theorem sum_mono {a b : Nat} (c : Nat) (h : a ≤ b) : f.sum c a ≤ f.sum c b :=
  f.nearest_mono (Nat.add_le_add_left (f.strictMono_units.monotone h) _) 1

theorem product_mono {a b : Nat} (c : Nat) (h : a ≤ b) (hb : b ≤ f.infinity) :
    f.product a c ≤ f.product b c := by
  unfold product
  split
  · rw [if_pos (by omega)]
  · split
    · exact f.nearest_le _ _
    · exact f.nearest_mono (Nat.mul_le_mul_right _ (f.strictMono_units.monotone h)) _

end BinaryFormat

namespace Binary

variable {f : BinaryFormat} {a b : Nat}

def inUnits : Binary f → Nat
  | nan => 0
  | signed _ ordinal _ => f.units ordinal

theorem signed_add (ha : a ≤ f.infinity) (hb : b ≤ f.infinity) (hfinite : a < f.infinity) :
    (signed false a ha + signed false b hb : Binary f) =
      signed false (f.sum a b) (f.nearest_le _ _) := by
  change add _ _ = _
  simp only [add, if_neg hfinite.ne, BinaryFormat.sum]
  split
  · rename_i hinfinite
    subst hinfinite
    have hover := f.nearest_of_overflow Nat.one_pos
      (show f.units f.infinity * 1 ≤ f.units a + f.units f.infinity by omega)
    simp only [hover]
  · rfl

theorem signed_mul (ha : a ≤ f.infinity) (hb : b ≤ f.infinity) (hpos : 0 < b)
    (hfinite : b < f.infinity) :
    (signed false a ha * signed false b hb : Binary f) =
      signed false (f.product a b) (f.product_le _ _) := by
  change mul _ _ = _
  by_cases hinfinite : a = f.infinity
  · have hzero : ¬ (f.infinity = 0 ∨ b = 0) := by omega
    simp [mul, hinfinite, hzero, BinaryFormat.product, infinite]
  · simp [mul, hinfinite, hfinite.ne, BinaryFormat.product]

theorem signed_le_iff (ha : a ≤ f.infinity) (hb : b ≤ f.infinity) :
    (signed false a ha).le (signed false b hb) = true ↔ a ≤ b := by
  simp [le, rank?]

theorem signed_lt_iff (ha : a ≤ f.infinity) (hb : b ≤ f.infinity) :
    (signed false a ha).lt (signed false b hb) = true ↔ a < b := by
  simp [lt, rank?]

theorem isFinite_signed_iff (negative : Bool) (ha : a ≤ f.infinity) :
    (signed negative a ha).isFinite = true ↔ a < f.infinity := by
  simp [isFinite]

theorem exists_eq_signed_of_pos {x : Binary f} (hfinite : x.isFinite = true)
    (hpos : (0 : Binary f).lt x = true) :
    ∃ (ordinal : Nat) (h : ordinal ≤ f.infinity), 0 < ordinal ∧ ordinal < f.infinity ∧
      x = signed false ordinal h := by
  have hzero : (0 : Binary f) = signed false 0 (Nat.zero_le _) := ofRatio_zero false Nat.one_pos
  rw [hzero] at hpos
  cases x with
  | nan => cases hfinite
  | signed negative ordinal h =>
      cases negative with
      | true =>
          simp only [lt, rank?, decide_eq_true_eq] at hpos
          simp at hpos
          omega
      | false =>
          exact ⟨ordinal, h, (signed_lt_iff _ h).1 hpos, (isFinite_signed_iff false h).1 hfinite,
            rfl⟩

end Binary

end StageAtlas
