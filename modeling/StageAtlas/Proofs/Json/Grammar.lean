import StageAtlas.Json.Reader

/-! # The grammar of JSON

Which characters are a JSON text and what they stand for, said without a reader. Each production is
a relation between the characters it covers and what they denote. Besides the bare grammar a number
has to be in range, a surrogate has to have its other half, and values nest only so deep.
-/

namespace StageAtlas.Json

/-- Which characters denote what. -/
abbrev Language (α : Type) := List Char → α → Prop

namespace Grammar

variable {α : Type}

def Blank (cs : List Char) : Prop := ∀ c ∈ cs, c ∈ [' ', '\t', '\n', '\r']

/-! ## Numbers -/

def Digits (cs : List Char) : Prop := cs ≠ [] ∧ ∀ c ∈ cs, c.isDigit = true

/-- The digits in front of the point. A zero in front stands alone. -/
def Whole (cs : List Char) : Prop := Digits cs ∧ (cs = ['0'] ∨ cs.head? ≠ some '0')

inductive Fraction : Language (List Nat)
  | absent : Fraction [] []
  | digits {cs : List Char} (h : Digits cs) : Fraction ('.' :: cs) (cs.map digitValue)

inductive Exponent : Language (Option Int)
  | absent : Exponent [] none
  | positive {mark : Char} {sign cs : List Char} (hmark : mark = 'e' ∨ mark = 'E')
      (hsign : sign = [] ∨ sign = ['+']) (h : Digits cs) :
      Exponent (mark :: (sign ++ cs)) (some (Nat.ofDigitChars 10 cs 0 : Nat))
  | negative {mark : Char} {cs : List Char} (hmark : mark = 'e' ∨ mark = 'E') (h : Digits cs) :
      Exponent (mark :: '-' :: cs) (some (-(Nat.ofDigitChars 10 cs 0 : Nat)))

def minus (negative : Bool) : List Char := if negative then ['-'] else []

inductive Number : Language Numeral
  | mk (negative : Bool) {whole point power : List Char} {fraction : List Nat}
      {exponent : Option Int} (hwhole : Whole whole) (hfraction : Fraction point fraction)
      (hexponent : Exponent power exponent) :
      Number (minus negative ++ (whole ++ (point ++ power)))
        ⟨negative, Nat.ofDigitChars 10 whole 0, fraction, exponent⟩

/-! ## Strings -/

def escapes : List (Char × Char) :=
  [('"', '"'), ('\\', '\\'), ('/', '/'), ('b', '\x08'), ('f', '\x0c'), ('n', '\n'), ('r', '\r'),
    ('t', '\t')]

inductive Unit16 : Language Nat
  | mk {a b c d : Char} {i j k l : Nat} (ha : hexValue? a = some i) (hb : hexValue? b = some j)
      (hc : hexValue? c = some k) (hd : hexValue? d = some l) :
      Unit16 [a, b, c, d] (((i * 16 + j) * 16 + k) * 16 + l)

inductive Character : Language Char
  | plain {c : Char} (hquote : c ≠ '"') (hbackslash : c ≠ '\\') (hcontrol : 0x20 ≤ c.toNat) :
      Character [c] c
  | escape {letter c : Char} (h : (letter, c) ∈ escapes) : Character ['\\', letter] c
  | code {cs : List Char} {n : Nat} (h : Unit16 cs n) (hlow : isLowSurrogate n = false)
      (hhigh : isHighSurrogate n = false) : Character ('\\' :: 'u' :: cs) (Char.ofNat n)
  | pair {cs ds : List Char} {high low : Nat} (hcs : Unit16 cs high) (hds : Unit16 ds low)
      (hhigh : isHighSurrogate high = true) (hlow : isLowSurrogate low = true) :
      Character ('\\' :: 'u' :: (cs ++ '\\' :: 'u' :: ds)) (pairChar high low)

inductive Characters : Language (List Char)
  | nil : Characters [] []
  | cons {t ts : List Char} {c : Char} {cs : List Char} (h : Character t c)
      (hs : Characters ts cs) : Characters (t ++ ts) (c :: cs)

inductive Quoted : Language String
  | mk {t : List Char} {s : String} (h : Characters t s.toList) : Quoted ('"' :: (t ++ ['"'])) s

/-! ## Arrays and objects -/

inductive Padded (L : Language α) : Language α
  | mk {before t after : List Char} {a : α} (hbefore : Blank before) (h : L t a)
      (hafter : Blank after) : Padded L (before ++ (t ++ after)) a

/-- One or more, with commas between them. -/
inductive Separated (L : Language α) : Language (List α)
  | one {t : List Char} {a : α} (h : L t a) : Separated L t [a]
  | cons {t ts : List Char} {a : α} {as : List α} (h : L t a) (hs : Separated L ts as) :
      Separated L (t ++ ',' :: ts) (a :: as)

/-- What stands between the brackets of a list, which may be nothing. -/
inductive Listed (L : Language α) : Language (List α)
  | empty {t : List Char} (h : Blank t) : Listed L t []
  | filled {t : List Char} {as : List α} (h : Separated (Padded L) t as) : Listed L t as

inductive Member (L : Language Json) : Language (String × Json)
  | mk {t before after u : List Char} {key : String} {v : Json} (hkey : Quoted t key)
      (hbefore : Blank before) (hafter : Blank after) (h : L u v) :
      Member L (t ++ (before ++ ':' :: (after ++ u))) (key, v)

/-! ## Values -/

inductive Scalar : Language Json
  | null : Scalar ['n', 'u', 'l', 'l'] .null
  | true : Scalar ['t', 'r', 'u', 'e'] (.bool Bool.true)
  | false : Scalar ['f', 'a', 'l', 's', 'e'] (.bool Bool.false)
  | num {t : List Char} {n : Numeral} (h : Number t n) (hrange : n.number?.isSome) :
      Scalar t (.num n)
  | str {t : List Char} {s : String} (h : Quoted t s) : Scalar t (.str s)

/-- Arrays and objects of given values. -/
inductive Nested (L : Language Json) : Language Json
  | arr {t : List Char} {items : List Json} (h : Listed L t items) :
      Nested L ('[' :: (t ++ [']'])) (.arr items)
  | obj {t : List Char} {members : List (String × Json)} (h : Listed (Member L) t members) :
      Nested L ('\x7b' :: (t ++ ['\x7d'])) (.obj members)

/-- Values with at most so many arrays and objects in each other. -/
def Value : Nat → Language Json
  | 0 => Scalar
  | depth + 1 => fun t v => Scalar t v ∨ Nested (Value depth) t v

theorem Scalar.value {t : List Char} {v : Json} (h : Scalar t v) : ∀ depth, Value depth t v
  | 0 => h
  | _ + 1 => .inl h

end Grammar

/-- A text is JSON, with blanks around the value that it denotes. -/
def Denotes (text : String) (v : Json) : Prop :=
  Grammar.Padded (Grammar.Value greatestDepth) text.toList v

namespace Grammar

variable {α : Type}

/-! ## Lists from the left

Behind the first element of a list stand only blanks, or blanks, a comma, the next element and
again such a remainder.
-/

inductive Remainder (L : Language α) : Language (List α)
  | done {t : List Char} (h : Blank t) : Remainder L t []
  | next {before after t ts : List Char} {a : α} {as : List α} (hbefore : Blank before)
      (hafter : Blank after) (h : L t a) (hs : Remainder L ts as) :
      Remainder L (before ++ ',' :: (after ++ (t ++ ts))) (a :: as)

variable {L : Language α}

theorem Blank.append {cs ds : List Char} (hcs : Blank cs) (hds : Blank ds) : Blank (cs ++ ds) :=
  List.forall_mem_append.2 ⟨hcs, hds⟩

theorem blank_nil : Blank [] := nofun

theorem Remainder.separated {ts : List Char} {as : List α} (hs : Remainder L ts as)
    {before t : List Char} {a : α} (hbefore : Blank before) (h : L t a) :
    Separated (Padded L) (before ++ (t ++ ts)) (a :: as) := by
  induction hs generalizing before t a with
  | done hafter => exact .one (.mk hbefore h hafter)
  | next hspace hlead hnext _ ih =>
      have hrest := ih hlead hnext
      have hfirst := Padded.mk hbefore h hspace
      simpa [List.append_assoc] using Separated.cons hfirst hrest

theorem Separated.exists_remainder {s : List Char} {as : List α} (h : Separated (Padded L) s as) :
    ∃ before t ts a rest, s = before ++ (t ++ ts) ∧ as = a :: rest ∧ Blank before ∧ L t a ∧
      Remainder L ts rest := by
  induction h with
  | one h =>
      obtain ⟨hbefore, h, hafter⟩ := h
      exact ⟨_, _, _, _, _, rfl, rfl, hbefore, h, .done hafter⟩
  | cons h _ ih =>
      obtain ⟨hbefore, h, hafter⟩ := h
      obtain ⟨lead, t, ts, a, rest, rfl, rfl, hlead, hnext, hrest⟩ := ih
      refine ⟨_, _, _, _, _, ?_, rfl, hbefore, h, .next hafter hlead hnext hrest⟩
      simp [List.append_assoc]

end Grammar

end StageAtlas.Json
