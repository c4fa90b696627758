import Mathlib.Data.List.TakeWhile
import StageAtlas.Proofs.History
import StageAtlas.Proofs.Json.Grammar

/-! # Reading tokens

The readers of blanks, words, numbers and strings take exactly the texts of their productions off
the front. Taking off is sound whatever follows. It is complete if what follows cannot go on with
the token, which matters for numbers only: a blank, a comma, a closing bracket or the end.
-/

namespace StageAtlas.Json

open Grammar

/-! ## Blanks and words -/

theorem isSpace_iff (c : Char) : isSpace c = true ↔ c ∈ [' ', '\t', '\n', '\r'] := by
  grind [isSpace]

theorem exists_blank_append (cs : List Char) :
    ∃ blanks, Blank blanks ∧ cs = blanks ++ skipSpace cs := by
  refine ⟨cs.takeWhile isSpace, fun c hc => ?_, List.takeWhile_append_dropWhile.symm⟩
  exact (isSpace_iff c).1 (List.mem_takeWhile_imp hc)

theorem skipSpace_append {blanks : List Char} (h : Blank blanks) (cs : List Char) :
    skipSpace (blanks ++ cs) = skipSpace cs :=
  List.dropWhile_append_of_pos fun c hc => (isSpace_iff c).2 (h c hc)

theorem skipSpace_cons {c : Char} (h : isSpace c = false) (cs : List Char) :
    skipSpace (c :: cs) = c :: cs := by
  rw [skipSpace, List.dropWhile_cons_of_neg (by simp [h])]

theorem readWord_append (v : Json) (word rest : List Char) :
    readWord v word (word ++ rest) = .ok (v, rest) := by
  induction word with
  | nil => rfl
  | cons letter word ih => simpa [readWord] using ih

theorem readWord_eq_ok {v w : Json} {word cs rest : List Char}
    (h : readWord v word cs = .ok (w, rest)) : w = v ∧ cs = word ++ rest := by
  induction word generalizing cs with
  | nil =>
      simp only [readWord, Except.ok.injEq, Prod.mk.injEq] at h
      exact ⟨h.1.symm, h.2⟩
  | cons letter word ih =>
      cases cs with
      | nil => cases h
      | cons c cs =>
          simp only [readWord] at h
          split at h
          · rename_i hc
            obtain ⟨hw, rfl⟩ := ih h
            exact ⟨hw, by rw [hc, List.cons_append]⟩
          · cases h

/-! ## Numbers -/

/-- Characters that do not start with one of a kind. -/
def Stops (kind : Char → Bool) (cs : List Char) : Prop := ∀ c ∈ cs.head?, kind c = false

theorem Stops.mono {kind other : Char → Bool} {cs : List Char} (h : Stops kind cs)
    (hkind : ∀ c, other c = true → kind c = true) : Stops other cs := by
  intro c hc
  rw [Bool.eq_false_iff]
  intro hother
  have hnone := h c hc
  rw [hkind c hother] at hnone
  cases hnone

/-- What may stand behind a value. -/
def Ends (cs : List Char) : Prop :=
  ∀ c ∈ cs.head?, isSpace c = true ∨ c = ',' ∨ c = ']' ∨ c = '\x7d'

theorem Ends.stops {cs : List Char} (h : Ends cs) :
    Stops (fun c => c.isDigit || c == '.' || c == 'e' || c == 'E') cs := by
  have hnone : ∀ c ∈ [' ', '\t', '\n', '\r', ',', ']', '\x7d'],
      (c.isDigit || c == '.' || c == 'e' || c == 'E') = false := by
    simp
  intro c hc
  rcases h c hc with hspace | rfl | rfl | rfl
  · exact hnone c (List.mem_append_left [',', ']', '\x7d'] ((isSpace_iff c).1 hspace))
  all_goals exact hnone _ (by simp)

theorem spanDigits_eq {cs digits rest : List Char} (h : spanDigits cs = (digits, rest)) :
    cs = digits ++ rest ∧ ∀ c ∈ digits, c.isDigit = true := by
  obtain ⟨rfl, rfl⟩ := Prod.mk.inj h
  exact ⟨List.takeWhile_append_dropWhile.symm, fun c hc => List.mem_takeWhile_imp hc⟩

theorem spanDigits_append {digits rest : List Char} (hdigits : ∀ c ∈ digits, c.isDigit = true)
    (hrest : Stops Char.isDigit rest) : spanDigits (digits ++ rest) = (digits, rest) := by
  have hnone : rest.takeWhile Char.isDigit = [] ∧ rest.dropWhile Char.isDigit = rest := by
    cases rest with
    | nil => exact ⟨rfl, rfl⟩
    | cons c cs =>
        have hc : c.isDigit = false := hrest c rfl
        simp [hc]
  rw [spanDigits, List.takeWhile_append_of_pos hdigits, List.dropWhile_append_of_pos hdigits,
    hnone.1, hnone.2, List.append_nil]

theorem readFraction_eq_ok {cs rest : List Char} {fraction : List Nat}
    (h : readFraction cs = .ok (fraction, rest)) :
    ∃ t, cs = t ++ rest ∧ Fraction t fraction := by
  unfold readFraction at h
  split at h
  · rename_i cs
    split at h
    · split at h <;> cases h
    · rename_i digits tail hne hspan
      cases h
      obtain ⟨rfl, hdigits⟩ := spanDigits_eq hspan
      exact ⟨'.' :: digits, rfl, .digits ⟨hne, hdigits⟩⟩
  · cases h
    exact ⟨[], rfl, .absent⟩

theorem readFraction_append {t rest : List Char} {fraction : List Nat} (h : Fraction t fraction)
    (hrest : Stops (fun c => c.isDigit || c == '.') rest) :
    readFraction (t ++ rest) = .ok (fraction, rest) := by
  cases h with
  | absent =>
      rw [List.nil_append]
      unfold readFraction
      split
      · have hpoint := hrest '.' rfl
        simp at hpoint
      · rfl
  | @digits digits h =>
      have hstops : Stops Char.isDigit rest := hrest.mono fun c hc => by simp [hc]
      rw [List.cons_append, readFraction]
      simp only [spanDigits_append h.2 hstops]
      split
      · rename_i heq
        exact (h.1 (Prod.mk.inj heq).1).elim
      · rename_i heq
        obtain ⟨rfl, rfl⟩ := Prod.mk.inj heq
        rfl

/-- The sign in front of the digits of an exponent, and what stands behind it. -/
def exponentSign : List Char → Bool × List Char
  | '+' :: cs => (false, cs)
  | '-' :: cs => (true, cs)
  | cs => (false, cs)

theorem exponentSign_cases (cs : List Char) :
    ((exponentSign cs).1 = true ∧ cs = '-' :: (exponentSign cs).2) ∨
      ((exponentSign cs).1 = false ∧
        ∃ plus, (plus = [] ∨ plus = ['+']) ∧ cs = plus ++ (exponentSign cs).2) := by
  unfold exponentSign
  split
  · exact .inr ⟨rfl, ['+'], .inr rfl, rfl⟩
  · exact .inl ⟨rfl, rfl⟩
  · exact .inr ⟨rfl, [], .inl rfl, rfl⟩

theorem exponentSign_digits {cs : List Char} (h : Digits cs) (rest : List Char) :
    exponentSign (cs ++ rest) = (false, cs ++ rest) := by
  obtain ⟨hne, hdigits⟩ := h
  cases cs with
  | nil => exact (hne rfl).elim
  | cons c cs =>
      have hc : c.isDigit = true := hdigits c List.mem_cons_self
      unfold exponentSign
      split
      · rename_i heq
        obtain ⟨rfl, _⟩ := List.cons.inj heq
        cases hc
      · rename_i heq
        obtain ⟨rfl, _⟩ := List.cons.inj heq
        cases hc
      · rfl

/-- An exponent with its mark is a sign and the digits behind it. -/
theorem readExponent_mark {mark : Char} (h : mark = 'e' ∨ mark = 'E') (cs : List Char) :
    readExponent (mark :: cs) =
      match spanDigits (exponentSign cs).2 with
      | ([], []) => .error ⟨.endInValue, 0⟩
      | ([], rest) => faultAt .invalidNumber rest
      | (digits, rest) =>
          if (exponentSign cs).1 then .ok (some (-(Nat.ofDigitChars 10 digits 0 : Nat), none), rest)
          else .ok (some ((Nat.ofDigitChars 10 digits 0 : Nat),
            overflowAt? 0 (exponentSign cs).2), rest) := by
  unfold readExponent
  dsimp only
  rw [if_pos h]
  rfl

theorem readExponent_of_not_mark {mark : Char} (h : ¬(mark = 'e' ∨ mark = 'E')) (cs : List Char) :
    readExponent (mark :: cs) = .ok (none, mark :: cs) := by
  unfold readExponent
  dsimp only
  rw [if_neg h]

theorem readExponent_eq_ok {cs rest : List Char} {power : Option (Int × Option (List Char))}
    (h : readExponent cs = .ok (power, rest)) :
    ∃ t, cs = t ++ rest ∧ Exponent t (power.map Prod.fst) := by
  cases cs with
  | nil =>
      cases h
      exact ⟨[], rfl, .absent⟩
  | cons mark cs =>
      by_cases hmark : mark = 'e' ∨ mark = 'E'
      · rw [readExponent_mark hmark] at h
        split at h
        · cases h
        · cases h
        · rename_i digits tail _ hne hspan
          obtain ⟨htail, hdigits⟩ := spanDigits_eq hspan
          rcases exponentSign_cases cs with ⟨hsign, hcs⟩ | ⟨hsign, plus, hplus, hcs⟩
          · rw [hsign, if_pos rfl] at h
            cases h
            refine ⟨mark :: '-' :: digits, ?_, .negative hmark ⟨hne, hdigits⟩⟩
            rw [hcs, htail]
            rfl
          · rw [hsign, if_neg Bool.false_ne_true] at h
            cases h
            refine ⟨mark :: (plus ++ digits), ?_, .positive hmark hplus ⟨hne, hdigits⟩⟩
            rw [hcs, htail]
            simp
      · rw [readExponent_of_not_mark hmark] at h
        cases h
        exact ⟨[], rfl, .absent⟩

theorem readExponent_of_sign {mark : Char} (hmark : mark = 'e' ∨ mark = 'E')
    {cs digits rest : List Char} {negative : Bool} (h : Digits digits)
    (hsign : exponentSign cs = (negative, digits ++ rest)) (hrest : Stops Char.isDigit rest) :
    ∃ overflow, readExponent (mark :: cs) = .ok (some
      (if negative then -(Nat.ofDigitChars 10 digits 0 : Nat)
        else (Nat.ofDigitChars 10 digits 0 : Nat), overflow), rest) := by
  rw [readExponent_mark hmark, hsign]
  simp only [spanDigits_append h.2 hrest]
  split
  · rename_i heq
    exact (h.1 (Prod.mk.inj heq).1).elim
  · rename_i heq
    exact (h.1 (Prod.mk.inj heq).1).elim
  · rename_i heq
    obtain ⟨rfl, rfl⟩ := Prod.mk.inj heq
    cases negative <;> exact ⟨_, rfl⟩

theorem readExponent_append {t rest : List Char} {exponent : Option Int} (h : Exponent t exponent)
    (hrest : Ends rest) :
    ∃ power, readExponent (t ++ rest) = .ok (power, rest) ∧ power.map Prod.fst = exponent := by
  have hstops : Stops Char.isDigit rest := hrest.stops.mono fun c hc => by simp [hc]
  cases h with
  | absent =>
      refine ⟨none, ?_, rfl⟩
      cases rest with
      | nil => rfl
      | cons c cs =>
          have hnone := hrest.stops c rfl
          simp only [Bool.or_eq_false_iff, beq_eq_false_iff_ne] at hnone
          exact readExponent_of_not_mark (by simp [hnone]) cs
  | @positive mark plus digits hmark hplus h =>
      have hsign : exponentSign (plus ++ digits ++ rest) = (false, digits ++ rest) := by
        rcases hplus with rfl | rfl
        · exact exponentSign_digits h rest
        · rfl
      obtain ⟨overflow, hread⟩ := readExponent_of_sign hmark h hsign hstops
      exact ⟨_, hread, rfl⟩
  | @negative mark digits hmark h =>
      have hsign : exponentSign ('-' :: digits ++ rest) = (true, digits ++ rest) := rfl
      obtain ⟨overflow, hread⟩ := readExponent_of_sign hmark h hsign hstops
      exact ⟨_, hread, rfl⟩

theorem Grammar.Exponent.stops {t rest : List Char} {exponent : Option Int}
    (h : Exponent t exponent) (hrest : Ends rest) :
    Stops (fun c => c.isDigit || c == '.') (t ++ rest) := by
  have hmarks : ∀ mark : Char, mark = 'e' ∨ mark = 'E' → (mark.isDigit || mark == '.') = false := by
    rintro mark (rfl | rfl) <;> decide
  cases h with
  | absent => exact hrest.stops.mono fun c hc => by simp_all
  | positive hmark _ _ => rintro c ⟨⟩; exact hmarks _ hmark
  | negative hmark _ => rintro c ⟨⟩; exact hmarks _ hmark

theorem Grammar.Fraction.stops {t rest : List Char} {fraction : List Nat} (h : Fraction t fraction)
    (hrest : Stops (fun c => c.isDigit || c == '.') rest) : Stops Char.isDigit (t ++ rest) := by
  cases h with
  | absent => exact hrest.mono fun c hc => by simp [hc]
  | digits _ => rintro c ⟨⟩; rfl

theorem readNumeral_eq_ok {negative : Bool} {cs rest : List Char} {v : Json}
    (h : readNumeral negative cs = .ok (v, rest)) :
    ∃ t n, cs = t ++ rest ∧ v = .num n ∧ Grammar.Number (minus negative ++ t) n ∧
      n.number?.isSome := by
  unfold readNumeral at h
  split at h
  · cases h
  · cases h
  · cases h
  · rename_i digits tail _ hne hzero hspan
    obtain ⟨⟨fraction, behind⟩, hfraction, h⟩ := exists_of_bind_eq_ok h
    obtain ⟨⟨power, last⟩, hexponent, h⟩ := exists_of_bind_eq_ok h
    dsimp only at hexponent h
    split at h
    · rename_i number hnumber
      cases h
      obtain ⟨rfl, hdigits⟩ := spanDigits_eq hspan
      obtain ⟨point, rfl, hpoint⟩ := readFraction_eq_ok hfraction
      obtain ⟨mark, rfl, hmark⟩ := readExponent_eq_ok hexponent
      have hwhole : Whole digits := by
        refine ⟨⟨hne, hdigits⟩, ?_⟩
        match digits, hzero with
        | [], _ => exact .inr nofun
        | [c], _ =>
            by_cases hc : c = '0'
            · exact .inl (by rw [hc])
            · exact .inr (by simpa using hc)
        | c :: d :: ds, hzero =>
            refine .inr fun hhead => hzero d ds ?_
            rw [Option.some.inj hhead]
      refine ⟨digits ++ (point ++ mark), _, by simp, rfl, .mk negative hwhole hpoint hmark, ?_⟩
      rw [hnumber]
      rfl
    · cases h

theorem readNumeral_append {negative : Bool} {whole point power rest : List Char}
    {fraction : List Nat} {exponent : Option Int} (hwhole : Whole whole)
    (hfraction : Fraction point fraction) (hexponent : Exponent power exponent)
    (hrange : (Numeral.number? ⟨negative, Nat.ofDigitChars 10 whole 0, fraction, exponent⟩).isSome)
    (hrest : Ends rest) :
    readNumeral negative (whole ++ (point ++ (power ++ rest))) =
      .ok (.num ⟨negative, Nat.ofDigitChars 10 whole 0, fraction, exponent⟩, rest) := by
  have hpower := hexponent.stops hrest
  have hspan := spanDigits_append hwhole.1.2 (hfraction.stops hpower)
  have hread := readFraction_append hfraction hpower
  obtain ⟨mark, hmark, rfl⟩ := readExponent_append hexponent hrest
  obtain ⟨number, hnumber⟩ := Option.isSome_iff_exists.1 hrange
  unfold readNumeral
  rw [hspan]
  split
  · rename_i heq
    exact (hwhole.1.1 (Prod.mk.inj heq).1).elim
  · rename_i heq
    exact (hwhole.1.1 (Prod.mk.inj heq).1).elim
  · rename_i heq
    obtain ⟨rfl, _⟩ := Prod.mk.inj heq
    rcases hwhole.2 with hsingle | hhead
    · cases hsingle
    · exact (hhead rfl).elim
  · rename_i heq
    obtain ⟨rfl, rfl⟩ := Prod.mk.inj heq
    simp [hread, hmark, hnumber, bind, Except.bind]

/-! ## Strings -/

theorem readHex_eq_ok {cs rest : List Char} {n : Nat} (h : readHex cs = .ok (n, rest)) :
    ∃ t, cs = t ++ rest ∧ Unit16 t n := by
  unfold readHex at h
  dsimp only at h
  split at h
  · rename_i a b c d tail
    split at h
    · rename_i ha hb hc hd
      cases h
      exact ⟨[a, b, c, d], rfl, .mk ha hb hc hd⟩
    · split at h <;> cases h
  · split at h <;> cases h

theorem readHex_append {t : List Char} {n : Nat} (h : Unit16 t n) (rest : List Char) :
    readHex (t ++ rest) = .ok (n, rest) := by
  obtain ⟨ha, hb, hc, hd⟩ := h
  simp [readHex, ha, hb, hc, hd]

theorem readUnicode_eq_ok {cs rest : List Char} {c : Char} (h : readUnicode cs = .ok (c, rest)) :
    ∃ t, cs = t ++ rest ∧ Character ('\\' :: 'u' :: t) c := by
  obtain ⟨⟨unit, tail⟩, hunit, hone⟩ := exists_of_bind_eq_ok h
  clear h
  obtain ⟨t, rfl, ht⟩ := readHex_eq_ok hunit
  dsimp only at hone
  split at hone
  · cases hone
  · rename_i hlow
    split at hone
    · rename_i hhigh
      split at hone
      · cases hone
      · cases hone
      · rename_i behind
        obtain ⟨⟨low, last⟩, hread, htwo⟩ := exists_of_bind_eq_ok hone
        clear hone
        obtain ⟨u, rfl, hu⟩ := readHex_eq_ok hread
        dsimp only at htwo
        split at htwo
        · rename_i hsecond
          simp only [Except.ok.injEq, Prod.mk.injEq] at htwo
          obtain ⟨rfl, rfl⟩ := htwo
          exact ⟨t ++ '\\' :: 'u' :: u, by simp, .pair ht hu hhigh hsecond⟩
        · cases htwo
      · cases hone
      · cases hone
    · rename_i hhigh
      cases hone
      exact ⟨t, rfl, .code ht (Bool.eq_false_iff.2 hlow) (Bool.eq_false_iff.2 hhigh)⟩

theorem simpleEscape?_eq_some_iff (letter c : Char) :
    simpleEscape? letter = some c ↔ (letter, c) ∈ escapes := by
  constructor
  · intro h
    unfold simpleEscape? at h
    repeat' split at h
    all_goals cases h
    all_goals simp_all [escapes]
  · have hall : ∀ entry ∈ escapes, simpleEscape? entry.1 = some entry.2 := by decide
    exact hall (letter, c)

theorem readEscape_eq_ok {cs rest : List Char} {c : Char} (h : readEscape cs = .ok (c, rest)) :
    ∃ t, cs = t ++ rest ∧ Character ('\\' :: t) c := by
  cases cs with
  | nil => cases h
  | cons letter cs =>
      rw [readEscape] at h
      split at h
      · rename_i hletter
        obtain ⟨t, rfl, ht⟩ := readUnicode_eq_ok h
        exact ⟨letter :: t, rfl, hletter ▸ ht⟩
      · split at h
        · rename_i d hescape
          cases h
          exact ⟨[letter], rfl, .escape ((simpleEscape?_eq_some_iff letter c).1 hescape)⟩
        · cases h

theorem readChars_eq_ok {fuel : Nat} {cs ds rest : List Char}
    (h : readChars fuel cs = .ok (ds, rest)) : ∃ t, cs = t ++ '"' :: rest ∧ Characters t ds := by
  induction fuel generalizing cs ds with
  | zero => cases h
  | succ fuel ih =>
      cases cs with
      | nil => cases h
      | cons c cs =>
          rw [readChars] at h
          split at h
          · rename_i hquote
            cases h
            exact ⟨[], by rw [hquote, List.nil_append], .nil⟩
          · rename_i hquote
            split at h
            · rename_i hbackslash
              obtain ⟨⟨d, behind⟩, hescape, h⟩ := exists_of_bind_eq_ok h
              obtain ⟨⟨es, last⟩, hchars, h⟩ := exists_of_bind_eq_ok h
              cases h
              obtain ⟨t, rfl, ht⟩ := readEscape_eq_ok hescape
              obtain ⟨u, rfl, hu⟩ := ih hchars
              exact ⟨c :: t ++ u, by simp, .cons (hbackslash ▸ ht) hu⟩
            · rename_i hbackslash
              split at h
              · cases h
              · rename_i hcontrol
                obtain ⟨⟨es, last⟩, hchars, h⟩ := exists_of_bind_eq_ok h
                cases h
                obtain ⟨u, rfl, hu⟩ := ih hchars
                exact ⟨c :: u, rfl, .cons (.plain hquote hbackslash (Nat.not_lt.1 hcontrol)) hu⟩

/-- However a character is written, one step of reading takes it. -/
theorem readChars_character {t : List Char} {c : Char} (h : Character t c) (fuel : Nat)
    (cs : List Char) :
    readChars (fuel + 1) (t ++ cs) =
      (readChars fuel cs).bind fun next => .ok (c :: next.1, next.2) := by
  cases h with
  | plain hquote hbackslash hcontrol =>
      rw [List.cons_append, List.nil_append, readChars, if_neg hquote, if_neg hbackslash,
        if_neg (Nat.not_lt.2 hcontrol)]
      rfl
  | @escape letter c h =>
      have hletter : letter ≠ 'u' := by
        rintro rfl
        revert h
        simp [escapes]
      have hread : readEscape (letter :: cs) = .ok (c, cs) := by
        rw [readEscape, if_neg hletter, (simpleEscape?_eq_some_iff letter c).2 h]
      simp only [List.cons_append, List.nil_append]
      rw [readChars, if_neg (by decide), if_pos rfl, hread]
      rfl
  | @code hex n h hlow hhigh =>
      have hread : readEscape ('u' :: (hex ++ cs)) = .ok (Char.ofNat n, cs) := by
        rw [readEscape, if_pos rfl, readUnicode, readHex_append h]
        simp [bind, Except.bind, hlow, hhigh]
      simp only [List.cons_append]
      rw [readChars, if_neg (by decide), if_pos rfl, hread]
      rfl
  | @pair hex hexes high low hcs hds hhigh hlow =>
      -- A high surrogate would be a fault if it were a low one as well, which is looked at first.
      have hfirst : isLowSurrogate high = false := by
        simp only [isHighSurrogate, isLowSurrogate, Bool.and_eq_true, decide_eq_true_eq,
          Bool.and_eq_false_iff, decide_eq_false_iff_not] at hhigh ⊢
        omega
      have hread : readEscape ('u' :: (hex ++ '\\' :: 'u' :: hexes ++ cs)) =
          .ok (pairChar high low, cs) := by
        rw [readEscape, if_pos rfl, readUnicode, List.append_assoc, readHex_append hcs]
        simp [bind, Except.bind, hfirst, hhigh, readHex_append hds, hlow]
      simp only [List.cons_append]
      rw [readChars, if_neg (by decide), if_pos rfl, hread]
      rfl

theorem readChars_append {t ds : List Char} (h : Characters t ds) {fuel : Nat}
    (hfuel : ds.length < fuel) (rest : List Char) :
    readChars fuel (t ++ '"' :: rest) = .ok (ds, rest) := by
  induction h generalizing fuel with
  | nil =>
      obtain ⟨fuel, rfl⟩ := Nat.exists_eq_add_of_lt hfuel
      rfl
  | @cons t ts c cs hc _ ih =>
      obtain ⟨fuel, rfl⟩ : ∃ k, fuel = k + 1 := ⟨fuel - 1, by omega⟩
      rw [List.append_assoc, readChars_character hc, ih (by simpa using hfuel)]
      rfl

theorem Grammar.Character.length_pos {t : List Char} {c : Char} (h : Character t c) :
    0 < t.length := by
  cases h <;> simp

theorem Grammar.Characters.length_le {t cs : List Char} (h : Characters t cs) :
    cs.length ≤ t.length := by
  induction h with
  | nil => simp
  | cons hc _ ih =>
      have hpos := hc.length_pos
      rw [List.length_cons, List.length_append]
      omega

theorem readString_eq_ok {fuel : Nat} {cs rest : List Char} {s : String}
    (h : readString fuel cs = .ok (s, rest)) : ∃ t, '"' :: cs = t ++ rest ∧ Quoted t s := by
  obtain ⟨⟨chars, last⟩, hchars, h⟩ := exists_of_bind_eq_ok h
  cases h
  obtain ⟨t, rfl, ht⟩ := readChars_eq_ok hchars
  exact ⟨'"' :: (t ++ ['"']), by simp, .mk (by simpa using ht)⟩

theorem readString_append {t : List Char} {s : String} (h : Quoted t s) {fuel : Nat}
    (hfuel : t.length ≤ fuel) (rest : List Char) :
    ∃ cs, t ++ rest = '"' :: cs ∧ readString fuel cs = .ok (s, rest) := by
  obtain ⟨h⟩ := h
  rename_i t
  have hlength := h.length_le
  have hchars := readChars_append h (show _ < fuel by simp at hfuel; omega) rest
  refine ⟨t ++ '"' :: rest, by simp, ?_⟩
  simp [readString, hchars, bind, Except.bind]

end StageAtlas.Json
