import StageAtlas.Binary.Written
import StageAtlas.Proofs.Binary.Shortest
import StageAtlas.Proofs.Json.RoundTrip
import StageAtlas.Toml.Reader
import StageAtlas.Toml.Writer

/-! # Reading written numbers

A natural number is written as a whole part, and a finite float as a whole part, a point and a
fraction. A reader takes these characters up to the end of the line and finds the number that was
written, and no date or time.
-/

namespace StageAtlas

open Json (digitValue eq_zero_of_head?_toDigits whole_toDigits)
open Json.Grammar (Digits Whole minus)

/-! ## Plain notation -/

namespace Decimal

variable {d : Decimal}

/-- The digits on either side of a point that write a form, up to zeros at the end. -/
structure Parts (d : Decimal) (whole fraction : List Char) (zeros : Nat) : Prop where
  front : Whole whole
  back : Digits fraction
  value : Nat.ofDigitChars 10 (whole ++ fraction) 0 = d.coefficient * 10 ^ zeros
  exponent : -(fraction.length : Int) = d.exponent - zeros

theorem ofDigitChars_digits (d : Decimal) : Nat.ofDigitChars 10 d.digits 0 = d.coefficient :=
  Nat.ofDigitChars_ten_toDigits

theorem whole_digits (d : Decimal) : Whole d.digits := whole_toDigits d.coefficient

theorem coefficient_eq_zero (h : d.digits.head? = some '0') : d.coefficient = 0 :=
  eq_zero_of_head?_toDigits h

theorem isDigit_of_mem_digits {c : Char} (h : c ∈ d.digits) : c.isDigit = true :=
  d.whole_digits.1.2 c h

theorem isDigit_of_mem_replicate {c : Char} {k : Nat} (h : c ∈ List.replicate k '0') :
    c.isDigit = true := by
  rw [List.eq_of_mem_replicate h]
  rfl

theorem ofDigitChars_replicate (k n : Nat) :
    Nat.ofDigitChars 10 (List.replicate k '0') n = n * 10 ^ k := by
  induction k generalizing n with
  | zero => simp
  | succ k ih =>
      rw [List.replicate_succ, Nat.ofDigitChars_cons, ih]
      simp
      ring

theorem parts_of_nonneg (hzero : d.coefficient = 0 → d.exponent = 0) (h : 0 ≤ d.exponent) :
    d.Parts (d.digits ++ List.replicate d.exponent.toNat '0') ['0'] (d.exponent.toNat + 1) where
  front := by
    by_cases hcoefficient : d.coefficient = 0
    · rw [hzero hcoefficient, Int.toNat_zero, List.replicate_zero, List.append_nil]
      exact d.whole_digits
    · refine ⟨⟨List.append_ne_nil_of_left_ne_nil d.whole_digits.1.1 _, fun c hc => ?_⟩, .inr ?_⟩
      · exact (List.mem_append.1 hc).elim isDigit_of_mem_digits isDigit_of_mem_replicate
      · intro hhead
        rw [List.head?_append, Option.or_eq_some_iff] at hhead
        exact hhead.elim (fun h => hcoefficient (coefficient_eq_zero h)) fun h =>
          d.whole_digits.1.1 (List.head?_eq_none_iff.1 h.1)
  back := ⟨by simp, by simp⟩
  value := by
    rw [Nat.ofDigitChars_append, Nat.ofDigitChars_append, ofDigitChars_digits,
      ofDigitChars_replicate, Nat.pow_succ, ← Nat.mul_assoc]
    exact ofDigitChars_replicate 1 _
  exponent := by simp only [List.length_singleton]; omega

theorem parts_of_point {places : Nat} (h : d.exponent = -(places : Int)) (hpos : 0 < places)
    (hlt : places < d.digits.length) :
    d.Parts (d.digits.take (d.digits.length - places))
      (d.digits.drop (d.digits.length - places)) 0 where
  front := by
    have hlength : 0 < (d.digits.take (d.digits.length - places)).length := by
      rw [List.length_take]; omega
    refine ⟨⟨List.ne_nil_of_length_pos hlength, fun c hc =>
      isDigit_of_mem_digits (List.mem_of_mem_take hc)⟩, .inr fun hhead => ?_⟩
    rw [List.head?_take, if_neg (by omega)] at hhead
    -- Zero has one digit only, and there is no room for a point in it.
    have hone : d.digits.length = 1 := by rw [digits, coefficient_eq_zero hhead]; rfl
    omega
  back :=
    ⟨by simp; omega, fun c hc => isDigit_of_mem_digits (List.mem_of_mem_drop hc)⟩
  value := by rw [List.take_append_drop, ofDigitChars_digits, Nat.pow_zero, Nat.mul_one]
  exponent := by simp only [List.length_drop]; omega

theorem parts_of_small {places : Nat} (h : d.exponent = -(places : Int))
    (hle : d.digits.length ≤ places) :
    d.Parts ['0'] (List.replicate (places - d.digits.length) '0' ++ d.digits) 0 where
  front := ⟨⟨by simp, by simp⟩, .inl rfl⟩
  back := by
    refine ⟨List.append_ne_nil_of_right_ne_nil _ d.whole_digits.1.1, fun c hc => ?_⟩
    exact (List.mem_append.1 hc).elim isDigit_of_mem_replicate isDigit_of_mem_digits
  value := by
    have hzeros (cs : List Char) :
        Nat.ofDigitChars 10 (['0'] ++ cs) 0 = Nat.ofDigitChars 10 cs 0 := rfl
    rw [hzeros, Nat.ofDigitChars_append, ofDigitChars_replicate, Nat.zero_mul,
      ofDigitChars_digits, Nat.pow_zero, Nat.mul_one]
  exponent := by simp only [List.length_append, List.length_replicate]; omega

theorem exists_plain_eq (hzero : d.coefficient = 0 → d.exponent = 0) :
    ∃ (whole fraction : List Char) (zeros : Nat),
      d.plain = whole ++ '.' :: fraction ∧ d.Parts whole fraction zeros := by
  simp only [plain]
  split
  · rename_i hnonneg
    exact ⟨_, _, _, rfl, parts_of_nonneg hzero hnonneg⟩
  · rename_i hneg
    have hexponent : d.exponent = -((-d.exponent).toNat : Int) := by omega
    split
    · rename_i hlt
      exact ⟨_, _, _, rfl, parts_of_point hexponent (by omega) hlt⟩
    · rename_i hge
      exact ⟨_, _, _, rfl, parts_of_small hexponent (Nat.not_lt.1 hge)⟩

end Decimal

namespace Toml

/-! ## Digits -/

theorem digit?_ten (c : Char) :
    digit? 10 c = if c.isDigit then some (digitValue c) else none := by
  have hlower (h : 'a' ≤ c) : 'a'.toNat ≤ c.toNat := h
  have hupper (h : 'A' ≤ c) : 'A'.toNat ≤ c.toNat := h
  by_cases hdigit : c.isDigit = true
  · have hvalue : c.toNat - '0'.toNat < 10 := by
      simp only [Char.isDigit, Bool.and_eq_true, decide_eq_true_eq] at hdigit
      have hle : c.toNat ≤ '9'.toNat := hdigit.2
      simp only [Char.reduceToNat] at hle ⊢
      omega
    simp only [digit?, hdigit, if_true, if_pos hvalue, digitValue]
  · have hvalue : ¬(if 'a' ≤ c ∧ c ≤ 'f' then c.toNat - 'a'.toNat + 10
        else if 'A' ≤ c ∧ c ≤ 'F' then c.toNat - 'A'.toNat + 10 else 16) < 10 := by
      split
      · omega
      · split <;> omega
    simp only [digit?, hdigit, if_false, if_neg hvalue, Bool.false_eq_true]

def EndsDigits (c : Char) : Prop := c.isDigit = false ∧ c ≠ '_'

theorem readMoreDigits_append {digits : List Char} (h : ∀ c ∈ digits, c.isDigit = true) {c : Char}
    (hc : EndsDigits c) (rest : List Char) :
    readMoreDigits 10 (digits ++ c :: rest) =
      some (digits.map digitValue, c :: rest) := by
  induction digits with
  | nil => simp [readMoreDigits.eq_def, digit?_ten, hc.1, hc.2]
  | cons d digits ih =>
      have hd := h d List.mem_cons_self
      have hmore := ih fun e he => h e (List.mem_cons_of_mem d he)
      rw [List.cons_append, readMoreDigits.eq_def]
      simp [digit?_ten, hd, hmore]

theorem readDigits_append {digits : List Char} (h : Digits digits) {c : Char}
    (hc : EndsDigits c) (rest : List Char) :
    readDigits 10 (digits ++ c :: rest) =
      some (digits.map digitValue, c :: rest) := by
  obtain ⟨hne, hdigits⟩ := h
  cases digits with
  | nil => exact absurd rfl hne
  | cons d digits =>
      have hd := hdigits d List.mem_cons_self
      have hmore :=
        readMoreDigits_append (fun e he => hdigits e (List.mem_cons_of_mem d he)) hc rest
      simp [readDigits, digit?_ten, hd, hmore]

theorem readWhole_append {whole : List Char} (h : Whole whole) {c : Char} (hc : EndsDigits c)
    (rest : List Char) :
    readWhole (whole ++ c :: rest) =
      some (whole.map digitValue, c :: rest) := by
  obtain ⟨hdigits, rfl | hhead⟩ := h
  · rfl
  · rw [← readDigits_append hdigits hc rest]
    cases whole with
    | nil => exact absurd rfl hdigits.1
    | cons d whole =>
        unfold readWhole
        split
        · rename_i heq
          simp_all
        · rfl

theorem ofDigits_map (cs : List Char) :
    ofDigits 10 (cs.map digitValue) = Nat.ofDigitChars 10 cs 0 := by
  simp [ofDigits, Nat.ofDigitChars, List.foldl_map, Nat.mul_comm, digitValue]

/-! ## Numbers up to the end of a line -/

variable {whole fraction rest : List Char}

theorem readDecimal_whole (negative : Bool) (h : Whole whole) (rest : List Char) :
    readDecimal negative (whole ++ '\n' :: rest) =
      (integer? negative (Nat.ofDigitChars 10 whole 0)).map fun v => (v, '\n' :: rest) := by
  have hwhole := readWhole_append h (c := '\n') ⟨by decide, by decide⟩ rest
  unfold readDecimal
  rw [hwhole]
  simp [readFraction, readExponent, ofDigits_map, Option.map_eq_bind]

theorem readDecimal_fraction (negative : Bool) (hwhole : Whole whole) (hfraction : Digits fraction)
    (rest : List Char) :
    readDecimal negative (whole ++ '.' :: (fraction ++ '\n' :: rest)) =
      (float? negative ⟨Nat.ofDigitChars 10 (whole ++ fraction) 0, -(fraction.length : Int)⟩).map
        fun v => (v, '\n' :: rest) := by
  have hfront := readWhole_append hwhole (c := '.') ⟨by decide, by decide⟩
    (fraction ++ '\n' :: rest)
  have hback := readDigits_append hfraction (c := '\n') ⟨by decide, by decide⟩ rest
  unfold readDecimal
  rw [hfront]
  have hlonger : rest.length ≠ fraction.length + (rest.length + 1) := by omega
  simp [readFraction, hback, readExponent, ← List.map_append, ofDigits_map, hlonger,
    Option.map_eq_bind]

/-! ## No dates and times -/

theorem readFixed_append {digits : List Char} (h : ∀ c ∈ digits, c.isDigit = true) {c : Char}
    (hc : c.isDigit = false) (size : Nat) (rest : List Char) :
    readFixed size (digits ++ c :: rest) =
      if size ≤ digits.length then
        some (Nat.ofDigitChars 10 (digits.take size) 0, digits.drop size ++ c :: rest)
      else none := by
  split
  · rename_i hle
    have hall : (digits.take size).all Char.isDigit = true :=
      List.all_eq_true.2 fun d hd => h d (List.mem_of_mem_take hd)
    simp only [readFixed, List.take_append_of_le_length hle, List.drop_append_of_le_length hle]
    rw [if_pos ⟨by simpa using hle, hall⟩]
  · rename_i hlt
    have hmem : c ∈ (digits ++ c :: rest).take size := by
      rw [List.take_append, List.mem_append]
      obtain ⟨k, hk⟩ : ∃ k, size - digits.length = k + 1 := ⟨size - digits.length - 1, by omega⟩
      exact .inr (by rw [hk]; exact List.mem_cons_self)
    refine if_neg fun hall => ?_
    rw [List.all_eq_true.1 hall.2 c hmem] at hc
    cases hc

/-- After some digits of a number there is no mark of a date or time. -/
theorem after?_readFixed {digits : List Char} (h : ∀ c ∈ digits, c.isDigit = true) {c mark : Char}
    (hc : c.isDigit = false) (hmark : mark.isDigit = false) (hne : c ≠ mark) (size : Nat)
    (rest : List Char) {read : Nat × List Char}
    (hread : readFixed size (digits ++ c :: rest) = some read) : after? mark read.2 = none := by
  rw [readFixed_append h hc] at hread
  split at hread
  · cases hread
    cases hdrop : digits.drop size with
    | nil => exact if_neg hne
    | cons d others =>
        have hdigit : d.isDigit = true := h d (List.mem_of_mem_drop (hdrop ▸ List.mem_cons_self))
        refine if_neg fun heq => ?_
        rw [heq, hmark] at hdigit
        cases hdigit
  · cases hread

theorem readDateTime_eq_none (digits : List Char) (h : ∀ c ∈ digits, c.isDigit = true)
    {c : Char} (hc : c.isDigit = false) (hdate : digits ≠ [] → c ≠ '-') (htime : c ≠ ':')
    (rest : List Char) :
    readDateTime (digits ++ c :: rest) = none := by
  have hskipDate : skipDate (digits ++ c :: rest) = none := by
    unfold skipDate
    cases hyear : readFixed 4 (digits ++ c :: rest) with
    | none => rfl
    | some read =>
        have hne : digits ≠ [] := by
          rintro rfl
          rw [readFixed_append h hc, if_neg (by decide)] at hyear
          cases hyear
        have hmark := after?_readFixed h hc (by decide) (hdate hne) 4 rest hyear
        simp [hmark]
  have hskipTime : skipTime (digits ++ c :: rest) = none := by
    unfold skipTime skipHourMinute
    cases hhour : readFixed 2 (digits ++ c :: rest) with
    | none => rfl
    | some read =>
        have hmark := after?_readFixed h hc (by decide) htime 2 rest hhour
        simp [hmark]
  simp [readDateTime, hskipDate, hskipTime]

/-! ## Values -/

theorem readSign_minus (negative : Bool) {c : Char} (hc : c.isDigit = true) (cs : List Char) :
    readSign (minus negative ++ c :: cs) = (negative, c :: cs) := by
  cases negative with
  | true => rfl
  | false =>
      simp only [minus, Bool.false_eq_true, if_false, List.nil_append]
      unfold readSign
      split <;> simp_all

/-- A zero in front is followed by what follows the whole part, and by no mark of a base. -/
theorem eq_of_leading_zero {negative : Bool} (h : Whole whole) {c mark : Char} {others : List Char}
    (heq : minus negative ++ (whole ++ c :: rest) = '0' :: mark :: others) : mark = c := by
  cases negative with
  | true => cases heq
  | false =>
      obtain ⟨hdigits, rfl | hhead⟩ := h
      · simp only [minus, Bool.false_eq_true, if_false, List.nil_append, List.singleton_append,
          List.cons.injEq] at heq
        exact heq.2.1.symm
      · cases whole with
        | nil => exact absurd rfl hdigits.1
        | cons d whole => simp_all [minus]

/-- A number that starts with a whole part is decimal. -/
theorem readNumber_minus (negative : Bool) (h : Whole whole) {c : Char}
    (hc : c = '.' ∨ c = '\n') (rest : List Char) :
    readNumber (minus negative ++ (whole ++ c :: rest)) =
      readDecimal negative (whole ++ c :: rest) := by
  obtain ⟨d, ds, rfl⟩ := List.exists_cons_of_ne_nil h.1.1
  have hd : d.isDigit = true := h.1.2 d List.mem_cons_self
  have hsign := readSign_minus negative hd (ds ++ c :: rest)
  unfold readNumber
  split
  -- The marks of the three other bases.
  iterate 3
    · rename_i heq
      cases eq_of_leading_zero h heq
      simp at hc
  · rw [List.cons_append, hsign]
    split
    -- The words for the special floats.
    iterate 2
      · rename_i heq
        rw [(List.cons.inj (Prod.mk.inj heq).2).1] at hd
        cases hd
    · rename_i heq
      obtain ⟨rfl, rfl⟩ := Prod.mk.inj heq
      rfl

theorem readDateTime_minus (negative : Bool) (h : Whole whole) {c : Char}
    (hc : c = '.' ∨ c = '\n') (rest : List Char) :
    readDateTime (minus negative ++ (whole ++ c :: rest)) = none := by
  cases negative with
  | true => exact readDateTime_eq_none [] (by simp) (by decide) (by simp) (by decide) _
  | false =>
      rcases hc with rfl | rfl <;>
        exact readDateTime_eq_none _ h.1.2 (by decide) (fun _ => by decide) (by decide) rest

/-- A number begins with no mark of another kind of value. -/
theorem exists_minus_cons (negative : Bool) (h : Whole whole) (rest : List Char) :
    ∃ c cs, minus negative ++ (whole ++ rest) = c :: cs ∧
      ∀ mark : Char, mark.isDigit = false → '-' ≠ mark → c ≠ mark := by
  cases negative with
  | true => exact ⟨'-', whole ++ rest, rfl, fun mark _ hminus => hminus⟩
  | false =>
      obtain ⟨d, ds, rfl⟩ := List.exists_cons_of_ne_nil h.1.1
      have hd : d.isDigit = true := h.1.2 d List.mem_cons_self
      refine ⟨d, ds ++ rest, rfl, ?_⟩
      rintro mark hdigit - rfl
      rw [hdigit] at hd
      cases hd

theorem readValue_minus (fuel depth : Nat) (negative : Bool) (h : Whole whole) {c : Char}
    (hc : c = '.' ∨ c = '\n') (rest : List Char) :
    readValue fuel depth (minus negative ++ (whole ++ c :: rest)) =
      readDecimal negative (whole ++ c :: rest) := by
  have hnumber := readNumber_minus negative h hc rest
  have hdateTime := readDateTime_minus negative h hc rest
  obtain ⟨d, ds, hcons, hne⟩ := exists_minus_cons negative h (c :: rest)
  rw [hcons] at hdateTime hnumber ⊢
  unfold readValue
  rw [if_neg (not_or.2 ⟨hne '"' rfl (by decide), hne '\'' rfl (by decide)⟩),
    if_neg (hne '[' rfl (by decide)), if_neg (hne '\x7b' rfl (by decide)),
    if_neg (hne 't' rfl (by decide)), if_neg (hne 'f' rfl (by decide)), hdateTime, ← hnumber]

theorem readValue_writeNat (fuel depth : Nat) {n : Nat} (h : n < 2 ^ 63) (rest : List Char) :
    readValue fuel depth (writeNat n ++ '\n' :: rest) = some (.integer n, '\n' :: rest) := by
  have hwhole : Whole (writeNat n) := whole_toDigits n
  have hread := readValue_minus fuel depth false hwhole (.inr rfl) rest
  rw [readDecimal_whole false hwhole] at hread
  rw [← List.nil_append (writeNat n ++ _)]
  refine hread.trans ?_
  rw [writeNat, Nat.ofDigitChars_ten_toDigits, integer?, if_neg (by decide), Nat.pow_eq, if_pos h]
  rfl

theorem readValue_writeFloat (fuel depth : Nat) {x : Double} (h : x.isFinite = true)
    (rest : List Char) :
    readValue fuel depth (writeFloat x ++ '\n' :: rest) = some (.float x, '\n' :: rest) := by
  cases x with
  | nan => cases h
  | signed negative ordinal hle =>
      have hlt : ordinal < BinaryFormat.double.infinity := of_decide_eq_true h
      have hreach := BinaryFormat.inReach_double
      obtain ⟨whole, fraction, zeros, hplain, hparts⟩ :=
        Decimal.exists_plain_eq (Binary.exponent_shortest hreach hle)
      have hwritten : writeFloat (.signed negative ordinal hle) ++ '\n' :: rest =
          minus negative ++ (whole ++ '.' :: (fraction ++ '\n' :: rest)) := by
        simp only [writeFloat, if_neg hlt.ne, hplain]
        cases negative <;> simp [minus]
      have hvalue : (Binary.ofDecimal negative
          ⟨Nat.ofDigitChars 10 (whole ++ fraction) 0, -(fraction.length : Int)⟩ : Double) =
            .signed negative ordinal hle := by
        rw [hparts.value, hparts.exponent, Binary.ofDecimal_mul_pow hreach]
        exact Binary.ofDecimal_shortest hreach hle negative
      rw [hwritten, readValue_minus fuel depth negative hparts.front (.inl rfl),
        readDecimal_fraction negative hparts.front hparts.back]
      simp only [float?, hvalue]
      rw [if_neg]
      · rfl
      · intro hinfinite
        simp only [Binary.infinite, Binary.signed.injEq] at hinfinite
        exact hlt.ne hinfinite.2

end Toml

end StageAtlas
