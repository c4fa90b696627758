import StageAtlas.Proofs.Json.Tokens

/-! # The reader accepts JSON

The reader takes a text exactly if the grammar derives it, and gives the value that the text
denotes. Lists are read from the left, an element and then the remainder behind it. Values are
treated by induction on the depth that the reader counts down; the fuel lasts for every text that is
no longer than it.
-/

namespace StageAtlas.Json

open Grammar

/-- A reader takes the texts of a language off the front, and blanks in front of them. -/
structure Accepts {α : Type} (read : Reader α) (L : Language α) (size : Nat) : Prop where
  sound : ∀ {cs rest : List Char} {a : α}, read cs = .ok (a, rest) →
    ∃ blanks t, Blank blanks ∧ cs = blanks ++ (t ++ rest) ∧ L t a
  complete : ∀ {blanks t rest : List Char} {a : α}, Blank blanks → L t a → t.length ≤ size →
    Ends rest → read (blanks ++ (t ++ rest)) = .ok (a, rest)

/-! ## What stands in front -/

/-- The first character of a value belongs to it, and it ends no array. -/
def Begins (t : List Char) : Prop := ∃ c cs, t = c :: cs ∧ isSpace c = false ∧ c ≠ ']'

theorem ends_cons {c : Char} (h : isSpace c = true ∨ c = ',' ∨ c = ']' ∨ c = '\x7d')
    (cs : List Char) : Ends (c :: cs) := by
  rintro d ⟨⟩
  exact h

theorem ends_nil : Ends [] := nofun

theorem ends_blank_append {blanks cs : List Char} (h : Blank blanks) (hcs : Ends cs) :
    Ends (blanks ++ cs) := by
  cases blanks with
  | nil => exact hcs
  | cons c blanks => exact ends_cons (.inl ((isSpace_iff c).2 (h c List.mem_cons_self))) _

theorem Grammar.Remainder.ends {α : Type} {L : Language α} {t rest : List Char} {as : List α}
    (h : Remainder L t as) (hrest : Ends rest) : Ends (t ++ rest) := by
  cases h with
  | done h => exact ends_blank_append h hrest
  | next hbefore _ _ _ =>
      rw [List.append_assoc]
      exact ends_blank_append hbefore (ends_cons (.inr (.inl rfl)) _)

theorem begins_of_isDigit {c : Char} (h : c.isDigit = true) (cs : List Char) :
    Begins (c :: cs) := by
  have hnone : ∀ d ∈ [' ', '\t', '\n', '\r', ']'], d.isDigit = false := by simp
  refine ⟨c, cs, rfl, ?_, ?_⟩
  · rw [Bool.eq_false_iff, ne_eq, isSpace_iff]
    intro hspace
    have hno := hnone c (List.mem_append_left [']'] hspace)
    rw [h] at hno
    cases hno
  · rintro rfl
    cases h

theorem Grammar.Number.begins {t : List Char} {n : Numeral} (h : Grammar.Number t n) :
    Begins t := by
  obtain ⟨negative, hwhole, _, _⟩ := h
  cases negative with
  | true => exact ⟨'-', _, rfl, by decide, by decide⟩
  | false =>
      obtain ⟨c, cs, rfl⟩ := List.exists_cons_of_ne_nil hwhole.1.1
      exact begins_of_isDigit (hwhole.1.2 c List.mem_cons_self) _

theorem Grammar.Scalar.begins {t : List Char} {v : Json} (h : Scalar t v) : Begins t := by
  cases h with
  | null => exact ⟨_, _, rfl, by decide, by decide⟩
  | true => exact ⟨_, _, rfl, by decide, by decide⟩
  | false => exact ⟨_, _, rfl, by decide, by decide⟩
  | num h _ => exact h.begins
  | str h =>
      obtain ⟨_⟩ := h
      exact ⟨_, _, rfl, by decide, by decide⟩

theorem Grammar.Value.begins {depth : Nat} {t : List Char} {v : Json} (h : Value depth t v) :
    Begins t := by
  cases depth with
  | zero => exact Scalar.begins h
  | succ depth =>
      rcases h with h | h
      · exact h.begins
      · cases h with
        | arr _ => exact ⟨_, _, rfl, by decide, by decide⟩
        | obj _ => exact ⟨_, _, rfl, by decide, by decide⟩

theorem skipSpace_append_of_begins {blanks t : List Char} (hblanks : Blank blanks) (h : Begins t)
    (rest : List Char) : skipSpace (blanks ++ (t ++ rest)) = t ++ rest := by
  obtain ⟨c, cs, rfl, hspace, _⟩ := h
  rw [skipSpace_append hblanks, List.cons_append, skipSpace_cons hspace]

/-! ## Arrays -/

section Arrays

variable {item : Reader Json} {L : Language Json} {size : Nat}

theorem readItems_eq_ok (hitem : Accepts item L size) {fuel : Nat} {cs rest : List Char}
    {items : List Json} (h : readItems item fuel cs = .ok (items, rest)) :
    ∃ t, cs = t ++ ']' :: rest ∧ Remainder L t items := by
  induction fuel generalizing cs items with
  | zero => cases h
  | succ fuel ih =>
      obtain ⟨before, hbefore, hcs⟩ := exists_blank_append cs
      rw [readItems] at h
      split at h
      · cases h
      · rename_i heq
        cases h
        exact ⟨before, by rw [← heq, ← hcs], .done hbefore⟩
      · rename_i tail heq
        obtain ⟨after, hafter, htail⟩ := exists_blank_append tail
        rw [heq] at hcs
        split at h
        · cases h
        · cases h
        · obtain ⟨⟨v, behind⟩, hv, h⟩ := exists_of_bind_eq_ok h
          obtain ⟨⟨vs, last⟩, hvs, h⟩ := exists_of_bind_eq_ok h
          cases h
          obtain ⟨more, t, hmore, hlead, ht⟩ := hitem.sound hv
          obtain ⟨ts, rfl, hts⟩ := ih hvs
          refine ⟨_, ?_, .next hbefore (hafter.append hmore) ht hts⟩
          rw [hcs, htail, hlead]
          simp
      · cases h

theorem readItems_append (hitem : Accepts item L size) (hbegins : ∀ t v, L t v → Begins t)
    {t : List Char} {items : List Json} (h : Remainder L t items) {fuel : Nat}
    (hsize : t.length ≤ size) (hfuel : t.length < fuel) (rest : List Char) :
    readItems item fuel (t ++ ']' :: rest) = .ok (items, rest) := by
  induction h generalizing fuel with
  | done h =>
      obtain ⟨fuel, rfl⟩ := Nat.exists_eq_add_of_lt hfuel
      rw [readItems, skipSpace_append h, skipSpace_cons (by decide)]
      rfl
  | @next before after t ts v vs hbefore hafter h hs ih =>
      simp only [List.length_append, List.length_cons] at hsize hfuel
      obtain ⟨fuel, rfl⟩ : ∃ k, fuel = k + 1 := ⟨fuel - 1, by omega⟩
      have hend := hs.ends (ends_cons (c := ']') (by simp) rest)
      have hv := hitem.complete blank_nil h (by omega) hend
      have hvs := ih (by omega) (show _ < fuel by omega)
      have hskip := skipSpace_append_of_begins hafter (hbegins t v h) (ts ++ ']' :: rest)
      obtain ⟨c, cs, rfl, hspace, hbracket⟩ := hbegins t v h
      simp only [List.append_assoc, List.cons_append, List.nil_append] at hv hskip ⊢
      rw [readItems, skipSpace_append hbefore, skipSpace_cons (by decide)]
      simp only [hskip]
      split
      · rename_i heq
        cases heq
      · rename_i heq
        exact (hbracket (List.cons.inj heq).1).elim
      · simp [hv, hvs, bind, Except.bind]

theorem readArray_eq_ok (hitem : Accepts item L size) {fuel : Nat} {cs rest : List Char} {v : Json}
    (h : readArray item fuel cs = .ok (v, rest)) :
    ∃ t items, cs = t ++ ']' :: rest ∧ Listed L t items ∧ v = .arr items := by
  obtain ⟨blanks, hblanks, hcs⟩ := exists_blank_append cs
  rw [readArray] at h
  split at h
  · cases h
  · rename_i heq
    cases h
    exact ⟨blanks, [], by rw [← heq, ← hcs], .empty hblanks, rfl⟩
  · obtain ⟨⟨first, behind⟩, hfirst, h⟩ := exists_of_bind_eq_ok h
    obtain ⟨⟨others, last⟩, hothers, h⟩ := exists_of_bind_eq_ok h
    cases h
    obtain ⟨more, t, hmore, hlead, ht⟩ := hitem.sound hfirst
    obtain ⟨ts, rfl, hts⟩ := readItems_eq_ok hitem hothers
    refine ⟨_, _, ?_, .filled (hts.separated (hblanks.append hmore) ht), rfl⟩
    rw [hcs, hlead]
    simp

theorem readArray_append (hitem : Accepts item L size) (hbegins : ∀ t v, L t v → Begins t)
    {t : List Char} {items : List Json} (h : Listed L t items) {fuel : Nat}
    (hsize : t.length ≤ size) (hfuel : t.length < fuel) (rest : List Char) :
    readArray item fuel (t ++ ']' :: rest) = .ok (.arr items, rest) := by
  cases h with
  | empty h =>
      rw [readArray, skipSpace_append h, skipSpace_cons (by decide)]
      rfl
  | filled h =>
      obtain ⟨blanks, t, ts, v, others, rfl, rfl, hblanks, ht, hts⟩ := h.exists_remainder
      simp only [List.length_append] at hsize hfuel
      have hend := hts.ends (ends_cons (c := ']') (by simp) rest)
      have hv := hitem.complete blank_nil ht (by omega) hend
      have hothers := readItems_append hitem hbegins hts (by omega) (show _ < fuel by omega) rest
      have hskip := skipSpace_append_of_begins hblanks (hbegins t v ht) (ts ++ ']' :: rest)
      obtain ⟨c, cs, rfl, hspace, hbracket⟩ := hbegins t v ht
      simp only [List.append_assoc, List.cons_append, List.nil_append] at hv hskip ⊢
      rw [readArray, hskip]
      split
      · rename_i heq
        cases heq
      · rename_i heq
        exact (hbracket (List.cons.inj heq).1).elim
      · simp [hv, hothers, bind, Except.bind]

end Arrays

/-! ## Objects -/

section Objects

variable {value : Reader Json} {L : Language Json} {size : Nat}

theorem readMember_eq_ok (hvalue : Accepts value L size) {fuel : Nat} {cs rest : List Char}
    {member : String × Json} (h : readMember value fuel cs = .ok (member, rest)) :
    ∃ t, '"' :: cs = t ++ rest ∧ Member L t member := by
  obtain ⟨⟨key, behind⟩, hkey, hcolon⟩ := exists_of_bind_eq_ok h
  obtain ⟨t, hcs, ht⟩ := readString_eq_ok hkey
  obtain ⟨before, hbefore, hbehind⟩ := exists_blank_append behind
  dsimp only at hcolon
  split at hcolon
  · cases hcolon
  · rename_i tail heq
    obtain ⟨⟨v, last⟩, hv, hlast⟩ := exists_of_bind_eq_ok hcolon
    cases hlast
    obtain ⟨after, u, hafter, rfl, hu⟩ := hvalue.sound hv
    refine ⟨_, ?_, .mk ht hbefore hafter hu⟩
    rw [hcs, hbehind, heq]
    simp
  · cases hcolon

theorem readMember_append (hvalue : Accepts value L size) {t : List Char} {member : String × Json}
    (h : Member L t member) {fuel : Nat} (hsize : t.length ≤ size) (hfuel : t.length ≤ fuel)
    {rest : List Char} (hrest : Ends rest) :
    ∃ cs, t ++ rest = '"' :: cs ∧ readMember value fuel cs = .ok (member, rest) := by
  obtain ⟨hkey, hbefore, hafter, hu⟩ := h
  rename_i t before after u key v
  simp only [List.length_append, List.length_cons] at hsize hfuel
  obtain ⟨cs, hcs, hstring⟩ := readString_append hkey (show _ ≤ fuel by omega)
    (before ++ ':' :: (after ++ (u ++ rest)))
  have hv := hvalue.complete hafter hu (by omega) hrest
  have hcolon : skipSpace (before ++ ':' :: (after ++ (u ++ rest))) =
      ':' :: (after ++ (u ++ rest)) := by
    rw [skipSpace_append hbefore, skipSpace_cons (by decide)]
  refine ⟨cs, ?_, ?_⟩
  · rw [← hcs]
    simp
  · simp [readMember, hstring, hcolon, hv, bind, Except.bind]

theorem readMembers_eq_ok (hvalue : Accepts value L size) {fuel : Nat} {cs rest : List Char}
    {members : List (String × Json)} (h : readMembers value fuel cs = .ok (members, rest)) :
    ∃ t, cs = t ++ '\x7d' :: rest ∧ Remainder (Member L) t members := by
  induction fuel generalizing cs members with
  | zero => cases h
  | succ fuel ih =>
      obtain ⟨before, hbefore, hcs⟩ := exists_blank_append cs
      rw [readMembers] at h
      split at h
      · cases h
      · rename_i heq
        cases h
        exact ⟨before, by rw [← heq, ← hcs], .done hbefore⟩
      · rename_i tail heq
        obtain ⟨after, hafter, htail⟩ := exists_blank_append tail
        rw [heq] at hcs
        split at h
        · cases h
        · rename_i quoted hquote
          obtain ⟨⟨member, behind⟩, hmember, h⟩ := exists_of_bind_eq_ok h
          obtain ⟨⟨others, last⟩, hothers, h⟩ := exists_of_bind_eq_ok h
          cases h
          obtain ⟨t, hlead, ht⟩ := readMember_eq_ok hvalue hmember
          obtain ⟨ts, rfl, hts⟩ := ih hothers
          refine ⟨_, ?_, .next hbefore hafter ht hts⟩
          rw [hcs, htail, hquote, hlead]
          simp
        · cases h
        · cases h
      · cases h

theorem readMembers_append (hvalue : Accepts value L size) {t : List Char}
    {members : List (String × Json)} (h : Remainder (Member L) t members) {fuel : Nat}
    (hsize : t.length ≤ size) (hfuel : t.length < fuel) (rest : List Char) :
    readMembers value fuel (t ++ '\x7d' :: rest) = .ok (members, rest) := by
  induction h generalizing fuel with
  | done h =>
      obtain ⟨fuel, rfl⟩ := Nat.exists_eq_add_of_lt hfuel
      rw [readMembers, skipSpace_append h, skipSpace_cons (by decide)]
      rfl
  | @next before after t ts member others hbefore hafter h hs ih =>
      simp only [List.length_append, List.length_cons] at hsize hfuel
      obtain ⟨fuel, rfl⟩ : ∃ k, fuel = k + 1 := ⟨fuel - 1, by omega⟩
      obtain ⟨cs, hcs, hmember⟩ := readMember_append hvalue h (by omega) (show _ ≤ fuel by omega)
        (hs.ends (ends_cons (c := '\x7d') (by simp) rest))
      have hothers := ih (by omega) (show _ < fuel by omega)
      simp only [List.append_assoc, List.cons_append]
      rw [readMembers, skipSpace_append hbefore, skipSpace_cons (by decide)]
      simp only [hcs, skipSpace_append hafter, skipSpace_cons (show isSpace '"' = false by decide)]
      simp [hmember, hothers, bind, Except.bind]

theorem readObject_eq_ok (hvalue : Accepts value L size) {fuel : Nat} {cs rest : List Char}
    {v : Json} (h : readObject value fuel cs = .ok (v, rest)) :
    ∃ t members, cs = t ++ '\x7d' :: rest ∧ Listed (Member L) t members ∧ v = .obj members := by
  obtain ⟨blanks, hblanks, hcs⟩ := exists_blank_append cs
  rw [readObject] at h
  split at h
  · cases h
  · rename_i heq
    cases h
    exact ⟨blanks, [], by rw [← heq, ← hcs], .empty hblanks, rfl⟩
  · rename_i quoted hquote
    obtain ⟨⟨first, behind⟩, hfirst, h⟩ := exists_of_bind_eq_ok h
    obtain ⟨⟨others, last⟩, hothers, h⟩ := exists_of_bind_eq_ok h
    cases h
    obtain ⟨t, hlead, ht⟩ := readMember_eq_ok hvalue hfirst
    obtain ⟨ts, rfl, hts⟩ := readMembers_eq_ok hvalue hothers
    refine ⟨_, _, ?_, .filled (hts.separated hblanks ht), rfl⟩
    rw [hcs, hquote, hlead]
    simp
  · cases h

theorem readObject_append (hvalue : Accepts value L size) {t : List Char}
    {members : List (String × Json)} (h : Listed (Member L) t members) {fuel : Nat}
    (hsize : t.length ≤ size) (hfuel : t.length < fuel) (rest : List Char) :
    readObject value fuel (t ++ '\x7d' :: rest) = .ok (.obj members, rest) := by
  cases h with
  | empty h =>
      rw [readObject, skipSpace_append h, skipSpace_cons (by decide)]
      rfl
  | filled h =>
      obtain ⟨blanks, t, ts, first, others, rfl, rfl, hblanks, ht, hts⟩ := h.exists_remainder
      simp only [List.length_append] at hsize hfuel
      obtain ⟨cs, hcs, hfirst⟩ := readMember_append hvalue ht (by omega) (show _ ≤ fuel by omega)
        (hts.ends (ends_cons (c := '\x7d') (by simp) rest))
      have hothers := readMembers_append hvalue hts (by omega) (show _ < fuel by omega) rest
      simp only [List.append_assoc]
      rw [readObject, skipSpace_append hblanks, hcs, skipSpace_cons (by decide)]
      simp [hfirst, hothers, bind, Except.bind]

end Objects

/-! ## Values -/

theorem readValue_sound {fuel depth : Nat}
    (hnested : ∀ inner, depth = inner + 1 →
      Accepts (readValue fuel inner) (Value inner) fuel)
    {cs rest : List Char} {v : Json} (h : readValue fuel depth cs = .ok (v, rest)) :
    ∃ blanks t, Blank blanks ∧ cs = blanks ++ (t ++ rest) ∧ Value depth t v := by
  obtain ⟨blanks, hblanks, hcs⟩ := exists_blank_append cs
  suffices hlead : ∃ t, skipSpace cs = t ++ rest ∧ Value depth t v by
    obtain ⟨t, ht, hv⟩ := hlead
    exact ⟨blanks, t, hblanks, by rw [← ht, ← hcs], hv⟩
  -- The first character behind the blanks decides which kind of value is read.
  unfold readValue at h
  split at h
  · cases h
  · rename_i c tail heq
    rw [heq]
    split at h
    · rename_i hc
      obtain ⟨rfl, rfl⟩ := readWord_eq_ok h
      exact ⟨['n', 'u', 'l', 'l'], by rw [hc]; rfl, Scalar.null.value depth⟩
    split at h
    · rename_i hc
      obtain ⟨rfl, rfl⟩ := readWord_eq_ok h
      exact ⟨['t', 'r', 'u', 'e'], by rw [hc]; rfl, Scalar.true.value depth⟩
    split at h
    · rename_i hc
      obtain ⟨rfl, rfl⟩ := readWord_eq_ok h
      exact ⟨['f', 'a', 'l', 's', 'e'], by rw [hc]; rfl, Scalar.false.value depth⟩
    split at h
    · rename_i hc
      obtain ⟨t, n, rfl, rfl, ht, hrange⟩ := readNumeral_eq_ok h
      exact ⟨'-' :: t, by rw [hc]; rfl, (Scalar.num ht hrange).value depth⟩
    split at h
    · obtain ⟨t, n, ht, rfl, hn, hrange⟩ := readNumeral_eq_ok h
      exact ⟨t, ht, (Scalar.num hn hrange).value depth⟩
    split at h
    · rename_i hc
      obtain ⟨⟨s, last⟩, hstring, h⟩ := exists_of_bind_eq_ok h
      cases h
      obtain ⟨t, ht, hs⟩ := readString_eq_ok hstring
      exact ⟨t, by rw [hc, ht], (Scalar.str hs).value depth⟩
    split at h
    · rename_i hc
      split at h
      · cases h
      · rename_i inner
        obtain ⟨t, items, rfl, hitems, rfl⟩ := readArray_eq_ok (hnested inner rfl) h
        exact ⟨'[' :: (t ++ [']']), by rw [hc]; simp, .inr (.arr hitems)⟩
    split at h
    · rename_i hc
      split at h
      · cases h
      · rename_i inner
        obtain ⟨t, members, rfl, hmembers, rfl⟩ := readObject_eq_ok (hnested inner rfl) h
        exact ⟨'\x7b' :: (t ++ ['\x7d']), by rw [hc]; simp, .inr (.obj hmembers)⟩
    · cases h

theorem readValue_number {t rest : List Char} {n : Numeral} (h : Grammar.Number t n)
    (hrange : n.number?.isSome) (hrest : Ends rest) (fuel depth : Nat) :
    readValue fuel depth (t ++ rest) = .ok (.num n, rest) := by
  have hbegins := h.begins
  obtain ⟨negative, hwhole, hfraction, hexponent⟩ := h
  rename_i whole point power fraction exponent
  have hread := readNumeral_append hwhole hfraction hexponent hrange hrest
  cases negative with
  | true =>
      have hlead : minus true ++ (whole ++ (point ++ power)) ++ rest =
          '-' :: (whole ++ (point ++ (power ++ rest))) := by
        simp [minus]
      rw [hlead, readValue, skipSpace_cons (by decide)]
      exact hread
  | false =>
      obtain ⟨c, cs, rfl⟩ := List.exists_cons_of_ne_nil hwhole.1.1
      have hdigit : c.isDigit = true := hwhole.1.2 c List.mem_cons_self
      have hne : ∀ d : Char, d.isDigit = false → c ≠ d := by
        rintro d hd rfl
        rw [hd] at hdigit
        cases hdigit
      obtain ⟨d, ds, heq, hspace, _⟩ := begins_of_isDigit hdigit cs
      obtain ⟨rfl, rfl⟩ := List.cons.inj heq
      have hlead : minus false ++ (c :: cs ++ (point ++ power)) ++ rest =
          c :: (cs ++ (point ++ (power ++ rest))) := by
        simp [minus]
      rw [hlead, readValue, skipSpace_cons hspace]
      dsimp only
      rw [if_neg (hne 'n' (by decide)), if_neg (hne 't' (by decide)), if_neg (hne 'f' (by decide)),
        if_neg (hne '-' (by decide)), if_pos hdigit]
      exact hread

theorem readValue_scalar {t rest : List Char} {v : Json} (h : Scalar t v) {fuel : Nat}
    (hfuel : t.length ≤ fuel) (hrest : Ends rest) (depth : Nat) :
    readValue fuel depth (t ++ rest) = .ok (v, rest) := by
  cases h with
  | null =>
      rw [readValue]
      exact readWord_append .null ['u', 'l', 'l'] rest
  | true =>
      rw [readValue]
      exact readWord_append (.bool true) ['r', 'u', 'e'] rest
  | false =>
      rw [readValue]
      exact readWord_append (.bool false) ['a', 'l', 's', 'e'] rest
  | num h hrange => exact readValue_number h hrange hrest fuel depth
  | str h =>
      obtain ⟨cs, hcs, hstring⟩ := readString_append h hfuel rest
      rw [hcs, readValue, skipSpace_cons (by decide)]
      simp [hstring, bind, Except.bind]

theorem readValue_nested {fuel depth : Nat}
    (hnested : Accepts (readValue fuel depth) (Value depth) fuel) {t : List Char} {v : Json}
    (h : Nested (Value depth) t v) (hfuel : t.length ≤ fuel) (rest : List Char) :
    readValue fuel (depth + 1) (t ++ rest) = .ok (v, rest) := by
  cases h with
  | @arr t items h =>
      simp only [List.length_cons, List.length_append] at hfuel
      have hread := readArray_append hnested (fun _ _ => Grammar.Value.begins) h
        (by omega) (show _ < fuel by omega) rest
      rw [List.cons_append, List.append_assoc, readValue, skipSpace_cons (by decide)]
      exact hread
  | @obj t members h =>
      simp only [List.length_cons, List.length_append] at hfuel
      have hread := readObject_append hnested h (by omega) (show _ < fuel by omega) rest
      rw [List.cons_append, List.append_assoc, readValue, skipSpace_cons (by decide)]
      exact hread

theorem readValue_append_of_blank {blanks : List Char} (h : Blank blanks) (fuel depth : Nat)
    (cs : List Char) : readValue fuel depth (blanks ++ cs) = readValue fuel depth cs := by
  rw [readValue, readValue, skipSpace_append h]

theorem accepts_readValue (fuel depth : Nat) :
    Accepts (readValue fuel depth) (Value depth) fuel := by
  induction depth with
  | zero =>
      refine ⟨fun h => readValue_sound ?_ h, ?_⟩
      · rintro inner ⟨⟩
      · intro blanks t rest v hblanks h hfuel hrest
        rw [readValue_append_of_blank hblanks]
        exact readValue_scalar h hfuel hrest 0
  | succ depth ih =>
      refine ⟨fun h => readValue_sound ?_ h, ?_⟩
      · rintro inner ⟨⟩
        exact ih
      · intro blanks t rest v hblanks h hfuel hrest
        rw [readValue_append_of_blank hblanks]
        rcases h with h | h
        · exact readValue_scalar h hfuel hrest (depth + 1)
        · exact readValue_nested ih h hfuel rest

theorem readChars?_eq_ok_iff {cs : List Char} {v : Json} :
    readChars? cs = .ok v ↔ Padded (Value greatestDepth) cs v := by
  have haccepts := accepts_readValue cs.length greatestDepth
  constructor
  · intro h
    obtain ⟨⟨w, rest⟩, hread, h⟩ := exists_of_bind_eq_ok h
    dsimp only at h
    split at h
    · rename_i hend
      cases h
      obtain ⟨before, t, hbefore, hcs, ht⟩ := haccepts.sound hread
      obtain ⟨after, hafter, hrest⟩ := exists_blank_append rest
      rw [hend, List.append_nil] at hrest
      rw [hcs, hrest]
      exact .mk hbefore ht hafter
    · cases h
  · rintro ⟨hbefore, h, hafter⟩
    rename_i before t after
    have hread := haccepts.complete hbefore h (by simp; omega)
      (by simpa using ends_blank_append hafter ends_nil)
    have hend : skipSpace after = [] := by simpa [skipSpace] using skipSpace_append hafter []
    rw [readChars?, hread]
    simp [bind, Except.bind, hend]

/-- Reading a text succeeds exactly if it is JSON, and gives the value it denotes. -/
theorem read_eq_ok_iff {text : String} {v : Json} : read text = .ok v ↔ Denotes text v := by
  rw [Denotes, ← readChars?_eq_ok_iff, read]
  cases readChars? text.toList with
  | ok w => simp
  | error fault => simp

theorem Denotes.unique {text : String} {v w : Json} (hv : Denotes text v) (hw : Denotes text w) :
    v = w := by
  rw [← read_eq_ok_iff] at hv hw
  exact Except.ok.inj (hv.symm.trans hw)

theorem exists_read_eq_error_iff {text : String} :
    (∃ fault, read text = .error fault) ↔ ¬∃ v, Denotes text v := by
  simp only [← read_eq_ok_iff]
  cases read text with
  | ok w => simp
  | error fault => simp

end StageAtlas.Json
