import Mathlib.Data.List.Induction
import StageAtlas.Proofs.Program.Listings

/-! # The width of a header

The width of a field is below 2 ^ 32 and 2 ^ 64 - 1 = (2 ^ 32 + 1) * (2 ^ 32 - 1), so a word of 64
bits holds the exact sum over 2 ^ 32 + 1 fields, and over one more it need not.
-/

namespace StageAtlas

/-! ## Widths of items -/

theorem Json.items?_eq_some_iff {v : Json} {items : List Json} :
    v.items? = some items ↔ v = .arr items := by
  cases v <;> simp [items?]

theorem Json.Numeral.natural?_eq_some_iff {n : Numeral} {k : Nat} :
    n.natural? = some k ↔ (n.negative = false ∧ n.fraction = [] ∧ n.exponent = none) ∧
      n.whole = k ∧ k ≤ wordMax := by
  rw [natural?, number?]
  split
  · rename_i heq
    split at heq
    · rename_i hnatural
      obtain ⟨hfraction, hexponent, hsign, hword⟩ := hnatural
      cases heq
      constructor
      · rintro ⟨⟩
        exact ⟨⟨hsign, hfraction, hexponent⟩, rfl, hword⟩
      · rintro ⟨_, rfl, _⟩
        rfl
    · split at heq
      · cases heq
      · simp at heq
  · rename_i hother
    constructor
    · intro h
      cases h
    · rintro ⟨⟨hsign, hfraction, hexponent⟩, rfl, hword⟩
      exact (hother n.whole (if_pos ⟨hfraction, hexponent, hsign, hword⟩)).elim

/-- The width that a numeral gives: itself if it is written as a natural number of 32 bits, without
a sign, a fraction or an exponent, and zero otherwise. -/
def Json.Numeral.width (n : Numeral) : Nat :=
  if n.negative = false ∧ n.fraction = [] ∧ n.exponent = none ∧ n.whole < 2 ^ 32 then n.whole else 0

/-- The width that an item gives: that of its bits if they are a number, and zero otherwise. -/
def Json.width (item : Json) : Nat :=
  match item.field? "bits" with
  | some (.num n) => n.width
  | _ => 0

theorem HeaderField.toNat_decodeBits_num (n : Json.Numeral) :
    (decodeBits (some (.num n))).toNat = n.width := by
  rw [Json.Numeral.width]
  split
  · rename_i h
    obtain ⟨hsign, hfraction, hexponent, hsmall⟩ := h
    have hword : n.whole ≤ Json.Numeral.wordMax := by
      simp only [Json.Numeral.wordMax, Nat.pow_eq]
      omega
    have hnatural : (Json.num n).natural? = some n.whole :=
      Json.Numeral.natural?_eq_some_iff.2 ⟨⟨hsign, hfraction, hexponent⟩, rfl, hword⟩
    have hbits : decodeBits (some (.num n)) = UInt32.ofNat n.whole := by
      simp only [decodeBits, Option.bind_some, hnatural]
      exact if_pos hsmall
    rw [hbits, UInt32.toNat_ofNat_of_lt' hsmall]
  · rename_i h
    have hbits : decodeBits (some (.num n)) = 0 := by
      simp only [decodeBits, Option.bind_some]
      split
      · rename_i k hk
        obtain ⟨hplain, rfl, _⟩ := Json.Numeral.natural?_eq_some_iff.1 hk
        exact if_neg fun hsmall => h ⟨hplain.1, hplain.2.1, hplain.2.2, hsmall⟩
      · rfl
    rw [hbits]
    rfl

theorem HeaderField.toNat_decodeBits (item : Json) :
    (decodeBits (item.field? "bits")).toNat = item.width := by
  unfold Json.width
  cases item.field? "bits" with
  | none => rfl
  | some value =>
      cases value with
      | num n => exact toNat_decodeBits_num n
      | _ => rfl

/-! ## Sums of widths -/

namespace Header

/-- The sum of the widths of the fields, however large. -/
def width (header : Header) : Nat := (header.fields.map fun field => field.bits.toNat).sum

/-- No width that is added takes the sum so far out of a word of 64 bits. -/
def NeverWraps (header : Header) : Prop :=
  ∀ front field back, header.fields = front ++ field :: back →
    (⟨header.name, front⟩ : Header).totalBits.toNat + field.bits.toNat < 2 ^ 64

/-- The number of fields up to which every sum of widths fits a word of 64 bits. -/
def greatestCount : Nat := 2 ^ 32 + 1

theorem totalBits_concat (name : String) (fields : List HeaderField) (field : HeaderField) :
    (⟨name, fields ++ [field]⟩ : Header).totalBits =
      (⟨name, fields⟩ : Header).totalBits + field.bits.toUInt64 := by
  rw [totalBits, totalBits, List.foldl_concat]

theorem width_concat (name : String) (fields : List HeaderField) (field : HeaderField) :
    (⟨name, fields ++ [field]⟩ : Header).width =
      (⟨name, fields⟩ : Header).width + field.bits.toNat := by
  simp [width]

/-- The sum in a word is the exact one, but for what a word cannot hold. -/
theorem toNat_totalBits (header : Header) : header.totalBits.toNat = header.width % 2 ^ 64 := by
  obtain ⟨name, fields⟩ := header
  induction fields using List.reverseRecOn with
  | nil => simp [totalBits, width]
  | append_singleton fields field ih =>
      rw [totalBits_concat, width_concat, UInt64.toNat_add, UInt32.toNat_toUInt64, ih]
      omega

theorem width_le (header : Header) : header.width ≤ header.fields.length * (2 ^ 32 - 1) := by
  obtain ⟨name, fields⟩ := header
  induction fields using List.reverseRecOn with
  | nil => simp [width]
  | append_singleton fields field ih =>
      have hbits := field.bits.toNat_lt
      rw [width_concat]
      simp only [List.length_append, List.length_singleton] at ih ⊢
      omega

theorem width_lt_of_length_le (header : Header) (h : header.fields.length ≤ greatestCount) :
    header.width < 2 ^ 64 := by
  have hwidth := header.width_le
  simp only [greatestCount] at h
  omega

theorem toNat_totalBits_of_length_le (header : Header)
    (h : header.fields.length ≤ greatestCount) : header.totalBits.toNat = header.width := by
  rw [toNat_totalBits, Nat.mod_eq_of_lt (width_lt_of_length_le header h)]

theorem neverWraps_of_length_le {header : Header} (h : header.fields.length ≤ greatestCount) :
    header.NeverWraps := by
  intro front field back hfields
  rw [hfields] at h
  simp only [List.length_append, List.length_cons] at h
  have hfront : front.length ≤ greatestCount := by omega
  have hnext : (front ++ [field]).length ≤ greatestCount := by
    rw [List.length_append, List.length_singleton]
    omega
  have hsum := width_lt_of_length_le ⟨header.name, front ++ [field]⟩ hnext
  rw [width_concat] at hsum
  rwa [toNat_totalBits_of_length_le ⟨header.name, front⟩ hfront]

theorem exists_totalBits_lt_width :
    ∃ header : Header, header.fields.length = greatestCount + 1 ∧
      header.totalBits.toNat < header.width := by
  let header : Header := ⟨"", List.replicate (greatestCount + 1) ⟨"", 4294967295⟩⟩
  have hwidth : header.width = (greatestCount + 1) * 4294967295 := by
    simp only [header, width, List.map_replicate, List.sum_replicate_nat]
    rfl
  refine ⟨header, List.length_replicate, ?_⟩
  rw [toNat_totalBits, hwidth]
  decide

theorem width_eq_of_perm {header other : Header} (h : header.fields.Perm other.fields) :
    header.width = other.width := (h.map _).sum_nat

theorem width_eq_add {header front back : Header}
    (h : header.fields = front.fields ++ back.fields) :
    header.width = front.width + back.width := by
  simp [width, h]

theorem totalBits_eq_of_perm {header other : Header} (h : header.fields.Perm other.fields) :
    header.totalBits = other.totalBits := by
  rw [← UInt64.toNat_inj, toNat_totalBits, toNat_totalBits, width_eq_of_perm h]

/-- The exact width of a decoded header is the sum of what the objects among its items give. -/
theorem width_decode (name : String) (items : List Json) :
    (decode name (.arr items)).width = ((items.filter Json.isObject).map Json.width).sum := by
  have hfields : (decode name (.arr items)).fields = items.filterMap HeaderField.decode? := rfl
  rw [width, hfields]
  clear hfields
  induction items with
  | nil => rfl
  | cons item rest ih =>
      cases hobject : item.isObject with
      | true => simp [HeaderField.decode?, hobject, HeaderField.toNat_decodeBits, ih]
      | false => simp [HeaderField.decode?, hobject, ih]

theorem length_fields_decode_le (name : String) (items : List Json) :
    (decode name (.arr items)).fields.length ≤ items.length := List.length_filterMap_le _ _

end Header

namespace Program

/-- The width of a header with no more items than a word can count is exact, whatever the items are:
no sum on the way leaves the word, the order of the fields has no part in it, and the widths of two
headers with the fields between them add up to it. -/
theorem total_bits_exact {v : Json} {name : String} {items : List Json}
    (h : (Listing.headerFields name).items? v = some items) (hcount : items.length ≤ 2 ^ 32 + 1) :
    ∃ header : Header,
      (decode v).registries.headers.find? (fun found => found.name = name) = some header ∧
      header.NeverWraps ∧
      header.totalBits.toNat = ((items.filter Json.isObject).map Json.width).sum ∧
      (∀ other : Header, header.fields.Perm other.fields →
        other.NeverWraps ∧ header.totalBits = other.totalBits) ∧
      ∀ front back : Header, header.fields = front.fields ++ back.fields →
        header.totalBits.toNat = front.totalBits.toNat + back.totalBits.toNat := by
  obtain ⟨value, hvalue, hitems⟩ := Option.bind_eq_some_iff.1 h
  obtain rfl : value = .arr items := Json.items?_eq_some_iff.1 hitems
  have hlength : (Header.decode name (.arr items)).fields.length ≤ Header.greatestCount :=
    Nat.le_trans (Header.length_fields_decode_le name items) hcount
  have hexact := Header.toNat_totalBits_of_length_le _ hlength
  refine ⟨_, (Listing.find?_headers_decode v name).trans (congrArg _ hvalue),
    Header.neverWraps_of_length_le hlength, hexact.trans (Header.width_decode name items),
    fun other hperm => ⟨?_, Header.totalBits_eq_of_perm hperm⟩, fun front back hfields => ?_⟩
  · rw [hperm.length_eq] at hlength
    exact Header.neverWraps_of_length_le hlength
  · rw [hfields, List.length_append] at hlength
    have hfront := Header.toNat_totalBits_of_length_le front (by omega)
    have hback := Header.toNat_totalBits_of_length_le back (by omega)
    rw [hexact, hfront, hback, Header.width_eq_add hfields]

/-- Only three items give a width: the others have none, or none that is a natural number of 32
bits, or are no objects. The sum is beyond 32 bits. -/
theorem total_bits_exact_mixed :
    let items : List Json := [.obj [("bits", .num (.ofNat 4294967295))], .str "pad",
      .obj [("bits", .num (.ofNat 4294967296))], .obj [("bits", .num ⟨true, 8, [], none⟩)],
      .obj [("bits", .num ⟨false, 8, [0], none⟩)], .obj [("bits", .num ⟨false, 8, [], some 1⟩)],
      .obj [("bits", .str "8")], .obj [], .obj [("bits", .num (.ofNat 8))], .null,
      .obj [("bits", .num (.ofNat 4294967295)), ("field", .str "ttl")]]
    let v : Json := .obj [("_headers", .obj [("frame", .arr items)])]
    ((Listing.headerFields "frame").items? v = some items ∧ items.length ≤ 2 ^ 32 + 1) ∧
      ∃ header : Header,
        (decode v).registries.headers.find? (fun found => found.name = "frame") = some header ∧
        header.NeverWraps ∧ header.totalBits.toNat = 8589934598 ∧
        header.totalBits = (⟨"", header.fields.reverse⟩ : Header).totalBits := by
  intro items v
  have hitems : (Listing.headerFields "frame").items? v = some items := rfl
  have hcount : items.length ≤ 2 ^ 32 + 1 := by decide
  obtain ⟨header, hfound, hwraps, hexact, hperm, _⟩ := total_bits_exact hitems hcount
  have hsum : ((items.filter Json.isObject).map Json.width).sum = 8589934598 := by decide
  exact ⟨⟨hitems, hcount⟩, header, hfound, hwraps, hexact.trans hsum,
    (hperm ⟨"", header.fields.reverse⟩ header.fields.reverse_perm.symm).2⟩

end Program

end StageAtlas
