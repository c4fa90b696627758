import StageAtlas.Json.Writer
import StageAtlas.Proofs.Json.Acceptance

/-! # Reading written values

A plain value has natural numbers of 64 bits, no repeated keys and a bounded depth. What is written
for it is JSON that denotes the value, so it is read back as the value itself. The induction is on
plainness, whose depth is the one that the grammar counts down.
-/

namespace StageAtlas.Json

open Grammar

/-! ## Written numbers -/

theorem eq_zero_of_head?_toDigits {n : Nat} (h : (Nat.toDigits 10 n).head? = some '0') : n = 0 := by
  induction n using Nat.strongRecOn with
  | ind n ih =>
      by_cases hn : n < 10
      · have hchar : ∀ m < 10, Nat.digitChar m = '0' → m = 0 := by decide
        rw [Nat.toDigits_of_lt_base hn] at h
        exact hchar n hn (Option.some.inj h)
      · have hlt : n / 10 < n := by omega
        obtain ⟨c, cs, hdigits⟩ := List.exists_cons_of_ne_nil (Nat.toDigits_ne_nil (n := n / 10))
        rw [Nat.toDigits_of_base_le (by omega) (by omega), hdigits] at h
        have hzero := ih (n / 10) hlt (by rw [hdigits]; exact h)
        omega

/-- Only zero starts with the digit zero, and it has no other digit. -/
theorem whole_toDigits (n : Nat) : Whole (Nat.toDigits 10 n) := by
  refine ⟨⟨Nat.toDigits_ne_nil, fun c => Nat.isDigit_of_mem_toDigits (by decide) (by decide)⟩, ?_⟩
  by_cases h : (Nat.toDigits 10 n).head? = some '0'
  · obtain rfl := eq_zero_of_head?_toDigits h
    exact .inl (Nat.toDigits_zero 10)
  · exact .inr h

theorem number_toDigits (n : Nat) : Grammar.Number (Nat.toDigits 10 n) (Numeral.ofNat n) := by
  have hnumber := Grammar.Number.mk false (whole_toDigits n) .absent .absent
  simpa [minus, Nat.ofDigitChars_ten_toDigits, Numeral.ofNat] using hnumber

/-! ## Written strings -/

theorem hexValue?_hexChar : ∀ n < 16, hexValue? (hexChar n) = some n := by decide

theorem character_control {c : Char} (h : c.toNat < 0x20) :
    Character ['\\', 'u', '0', '0', hexChar (c.toNat / 16), hexChar (c.toNat % 16)] c := by
  have hzero : hexValue? '0' = some 0 := by decide
  have hunit := Unit16.mk hzero hzero (hexValue?_hexChar (c.toNat / 16) (by omega))
    (hexValue?_hexChar (c.toNat % 16) (by omega))
  have hvalue : ((0 * 16 + 0) * 16 + c.toNat / 16) * 16 + c.toNat % 16 = c.toNat := by omega
  rw [hvalue] at hunit
  have hlow : isLowSurrogate c.toNat = false := by
    simp only [isLowSurrogate, Bool.and_eq_false_iff, decide_eq_false_iff_not]
    omega
  have hhigh : isHighSurrogate c.toNat = false := by
    simp only [isHighSurrogate, Bool.and_eq_false_iff, decide_eq_false_iff_not]
    omega
  simpa using Character.code hunit hlow hhigh

theorem character_escape (c : Char) : Character (escape c) c := by
  unfold escape
  -- The seven characters with an escape of their own.
  iterate 7
    split
    · subst c
      exact .escape (by decide)
  split
  · rename_i hcontrol
    exact character_control hcontrol
  · rename_i hquote hbackslash _ _ _ _ _ hplain
    exact .plain hquote hbackslash (Nat.not_lt.1 hplain)

theorem characters_flatMap_escape (cs : List Char) : Characters (cs.flatMap escape) cs := by
  induction cs with
  | nil => exact .nil
  | cons c cs ih => exact .cons (character_escape c) ih

theorem quoted_writeString (s : String) : Quoted (writeString s) s :=
  .mk (characters_flatMap_escape s.toList)

/-! ## Written arrays and objects -/

section Nested

variable {L : Language Json}

theorem exists_writeItems {items : List Json} (h : ∀ item ∈ items, L (write item) item) :
    ∃ t, writeItems items = t ++ [']'] ∧ Remainder L t items := by
  induction items with
  | nil => exact ⟨[], by rw [writeItems]; rfl, .done blank_nil⟩
  | cons item items ih =>
      obtain ⟨t, ht, hs⟩ := ih fun later hlater => h later (List.mem_cons_of_mem item hlater)
      refine ⟨_, ?_, .next blank_nil blank_nil (h item List.mem_cons_self) hs⟩
      rw [writeItems, ht]
      simp

theorem nested_write_arr {items : List Json} (h : ∀ item ∈ items, L (write item) item) :
    Nested L (write (.arr items)) (.arr items) := by
  cases items with
  | nil => rw [write]; exact .arr (.empty blank_nil)
  | cons item items =>
      obtain ⟨t, ht, hs⟩ :=
        exists_writeItems fun later hlater => h later (List.mem_cons_of_mem item hlater)
      have hlist := Nested.arr (.filled (hs.separated blank_nil (h item List.mem_cons_self)))
      rw [write, ht]
      simpa using hlist

theorem member_write (key : String) {v : Json} (h : L (write v) v) :
    Member L (writeString key ++ ':' :: write v) (key, v) :=
  .mk (quoted_writeString key) blank_nil blank_nil h

theorem exists_writeMembers {members : List (String × Json)}
    (h : ∀ member ∈ members, L (write member.2) member.2) :
    ∃ t, writeMembers members = t ++ ['\x7d'] ∧ Remainder (Member L) t members := by
  induction members with
  | nil => exact ⟨[], by rw [writeMembers]; rfl, .done blank_nil⟩
  | cons member members ih =>
      obtain ⟨key, v⟩ := member
      obtain ⟨t, ht, hs⟩ := ih fun later hlater => h later (List.mem_cons_of_mem _ hlater)
      have hmember := member_write key (h (key, v) List.mem_cons_self)
      refine ⟨_, ?_, .next blank_nil blank_nil hmember hs⟩
      rw [writeMembers, ht]
      simp

theorem nested_write_obj {members : List (String × Json)}
    (h : ∀ member ∈ members, L (write member.2) member.2) :
    Nested L (write (.obj members)) (.obj members) := by
  cases members with
  | nil => rw [write]; exact .obj (.empty blank_nil)
  | cons member members =>
      obtain ⟨key, v⟩ := member
      obtain ⟨t, ht, hs⟩ :=
        exists_writeMembers fun later hlater => h later (List.mem_cons_of_mem _ hlater)
      have hmember := member_write key (h (key, v) List.mem_cons_self)
      have hlist := Nested.obj (.filled (hs.separated blank_nil hmember))
      rw [write, ht]
      simpa using hlist

end Nested

/-! ## Plain values -/

/-- Values with at most `depth` arrays and objects in each other. -/
inductive Plain : Nat → Json → Prop where
  | null {depth : Nat} : Plain depth .null
  | bool {depth : Nat} (b : Bool) : Plain depth (.bool b)
  | word {depth n : Nat} (h : n ≤ Numeral.wordMax) : Plain depth (.num (Numeral.ofNat n))
  | str {depth : Nat} (s : String) : Plain depth (.str s)
  | arr {depth : Nat} {items : List Json} (h : ∀ item ∈ items, Plain depth item) :
      Plain (depth + 1) (.arr items)
  | obj {depth : Nat} {members : List (String × Json)} (keys : (members.map Prod.fst).Nodup)
      (h : ∀ member ∈ members, Plain depth member.2) : Plain (depth + 1) (.obj members)

namespace Plain

theorem normalize_eq {depth : Nat} {v : Json} (h : Plain depth v) : v.normalize = v := by
  induction h with
  | null => rw [normalize]
  | bool b => rw [normalize]
  | word h => rw [normalize]
  | str s => rw [normalize]
  | arr _ ih =>
      rw [normalize, normalizeItems_eq_map]
      exact congrArg Json.arr ((List.map_congr_left ih).trans (List.map_id _))
  | @obj depth members keys _ ih =>
      have hmembers : ∀ member ∈ members, (member.1, member.2.normalize) = id member :=
        fun member hmem => by rw [ih member hmem]; rfl
      rw [normalize, normalizeMembers_eq_map, List.map_congr_left hmembers, List.map_id,
        Keyed.collapse_of_nodup keys]

/-- What is written for a plain value is JSON that denotes it. -/
theorem value_write {depth : Nat} {v : Json} (h : Plain depth v) : Value depth (write v) v := by
  induction h with
  | null => rw [write]; exact Scalar.null.value _
  | bool b => cases b <;> rw [write] <;> [exact Scalar.false.value _; exact Scalar.true.value _]
  | @word depth n hn =>
      have hnumber := Numeral.number?_ofNat hn
      rw [write, writeNumeral, hnumber]
      exact (Scalar.num (number_toDigits n) (by rw [hnumber]; rfl)).value depth
  | str s => rw [write]; exact (Scalar.str (quoted_writeString s)).value _
  | arr _ ih => exact .inr (nested_write_arr ih)
  | obj _ _ ih => exact .inr (nested_write_obj ih)

end Plain

theorem denotes_text {v : Json} (h : Plain greatestDepth v) : Denotes v.text v := by
  have hvalue := Padded.mk blank_nil h.value_write blank_nil
  rw [Denotes, text, h.normalize_eq]
  simpa using hvalue

/-- Reading the compact text of a plain value gives the value. -/
theorem read_text {v : Json} (h : Plain greatestDepth v) : read v.text = .ok v :=
  read_eq_ok_iff.2 (denotes_text h)

end StageAtlas.Json
