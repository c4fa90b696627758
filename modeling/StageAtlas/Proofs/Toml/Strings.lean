import StageAtlas.Toml.Text
import StageAtlas.Toml.Writer

/-! # Reading written strings

Whichever form is chosen for a string, the reader finds the string in it and stops at the end of the
line. Over several lines the induction has to stop early: what is left of the string at its end may
be quotation marks only, and then they are read together with the delimiter.
-/

namespace StageAtlas.Toml

variable {mark c : Char} {cs rest closed : List Char}

/-! ## Characters and escapes -/

theorem ne_lineEnd_of_isPrintable (h : isPrintable c = true) : c ≠ '\n' ∧ c ≠ '\r' := by
  constructor <;> rintro rfl <;> cases h

theorem hexValue?_upperHexChar : ∀ n < 16, hexValue? (upperHexChar n) = some n := by decide

theorem readEscape_control (h : c.toNat < 128) (rest : List Char) :
    readEscape ('u' :: '0' :: '0' :: upperHexChar (c.toNat / 16) :: upperHexChar (c.toNat % 16) ::
      rest) = some (c, rest) := by
  have hzero : hexValue? '0' = some 0 := by decide
  have hhigh := hexValue?_upperHexChar (c.toNat / 16) (by omega)
  have hlow := hexValue?_upperHexChar (c.toNat % 16) (by omega)
  have hvalue : c.toNat / 16 * 16 + c.toNat % 16 = c.toNat := by omega
  have hvalid : c.toNat.isValidChar := c.valid
  simp [readEscape, readScalar, hexNumber?, hzero, hhigh, hlow, hvalue, scalar?, hvalid]

/-- A character is written with an escape that reads back and is no line fold, or as it is. -/
theorem escape_cases (c : Char) :
    (∃ e, escape c = '\\' :: e ∧ ∀ rest, fold? (e ++ rest) = none ∧
      readEscape (e ++ rest) = some (c, rest)) ∨
    (escape c = [c] ∧ c ≠ '\\' ∧ (c = '\n' ∨ isPrintable c = true)) := by
  unfold escape
  iterate 4
    split
    · subst c
      exact .inl ⟨_, rfl, fun rest => ⟨rfl, rfl⟩⟩
  split
  · subst c
    exact .inl ⟨_, rfl, fun rest => ⟨rfl, rfl⟩⟩
  · rename_i hbackslash
    split
    · rename_i hcontrol
      have hsmall : c.toNat < 128 := by grind [needsEscape, isPrintable]
      exact .inl ⟨_, rfl, fun rest => ⟨rfl, readEscape_control hsmall rest⟩⟩
    · rename_i hplain
      exact .inr ⟨rfl, hbackslash, by grind [needsEscape]⟩

/-! ## One line -/

theorem readBasic_escape {e : List Char} (rest : List Char)
    (h : readEscape (e ++ rest) = some (c, rest)) :
    readBasic ('\\' :: (e ++ rest)) = (readBasic rest).map (push c) := by
  rw [readBasic, if_neg (by decide), if_pos rfl]
  split
  · rename_i hread
    cases h.symm.trans hread
    rfl
  · rename_i hread
    cases h.symm.trans hread

theorem readBasic_plain (hquote : c ≠ '"') (hbackslash : c ≠ '\\') (h : isPrintable c = true) :
    readBasic (c :: rest) = (readBasic rest).map (push c) := by
  rw [readBasic, if_neg hquote, if_neg hbackslash, if_pos h]

/-- Each character is written so that it is read before what follows. -/
theorem readBasic_writeBasic_cons (c : Char) (cs rest : List Char) :
    readBasic (writeBasic (c :: cs) ++ rest) =
      (readBasic (writeBasic cs ++ rest)).map (push c) := by
  have hsplit : writeBasic (c :: cs) =
      (if c = '"' then ['\\', '"'] else if c = '\n' then ['\\', 'n'] else escape c) ++
        writeBasic cs := List.flatMap_cons
  rw [hsplit, List.append_assoc]
  split
  · subst c
    exact readBasic_escape (e := ['"']) _ rfl
  · rename_i hquote
    split
    · subst c
      exact readBasic_escape (e := ['n']) _ rfl
    · rename_i hline
      rcases escape_cases c with ⟨e, he, hread⟩ | ⟨he, hbackslash, hplain⟩
      · rw [he, List.cons_append, readBasic_escape _ (hread _).2]
      · rw [he, List.singleton_append,
          readBasic_plain hquote hbackslash (hplain.resolve_left hline)]

theorem readBasic_writeBasic (cs rest : List Char) :
    readBasic (writeBasic cs ++ '"' :: rest) = some (cs, rest) := by
  induction cs with
  | nil => rw [writeBasic, List.flatMap_nil, List.nil_append, readBasic, if_pos rfl]
  | cons c cs ih =>
      rw [readBasic_writeBasic_cons, ih]
      rfl

theorem readLiteral_append (hmark : '\'' ∉ cs) (hplain : ∀ c ∈ cs, isPrintable c = true)
    (rest : List Char) : readLiteral (cs ++ '\'' :: rest) = some (cs, rest) := by
  induction cs with
  | nil => rfl
  | cons c cs ih =>
      have hc : c ≠ '\'' := fun h => hmark (h ▸ List.mem_cons_self)
      have htail := ih (fun h => hmark (List.mem_cons_of_mem c h))
        fun d hd => hplain d (List.mem_cons_of_mem c hd)
      rw [List.cons_append, readLiteral, if_neg hc, if_pos (hplain c List.mem_cons_self), htail]
      rfl

/-! ## Delimiters of several lines -/

theorem eq_of_tripled? (h : tripled? mark cs = some closed) :
    cs = mark :: mark :: mark :: closed := by
  unfold tripled? at h
  split at h
  · split at h
    · rename_i hmarks
      obtain ⟨rfl, rfl, rfl⟩ := hmarks
      rw [Option.some.inj h]
    · cases h
  · cases h

theorem tripled?_cons_of_ne (h : c ≠ mark) (rest : List Char) :
    tripled? mark (c :: rest) = none := by
  cases htriple : tripled? mark (c :: rest) with
  | none => rfl
  | some closed => exact absurd (List.cons.inj (eq_of_tripled? htriple)).1 h

/-- Where a delimiter begins in a text that has none, or at its end, what is left of the text are
marks that touch the delimiter. -/
theorem touching_of_tripled? (hline : '\n' ≠ mark) (htext : tripled? mark cs = none)
    (h : tripled? mark (cs ++ mark :: mark :: mark :: '\n' :: rest) = some closed) :
    touching mark closed = (cs, '\n' :: rest) ∧ ∀ c ∈ cs, c = mark := by
  have heq := eq_of_tripled? h
  match cs with
  | [] =>
      simp only [List.nil_append, List.cons.injEq, true_and] at heq
      subst heq
      cases rest <;> simp [touching, hline]
  | [a] =>
      simp only [List.singleton_append, List.cons.injEq, true_and] at heq
      obtain ⟨rfl, rfl⟩ := heq
      simp [touching, hline]
  | [a, b] =>
      simp only [List.cons_append, List.nil_append, List.cons.injEq, true_and] at heq
      obtain ⟨rfl, rfl, rfl⟩ := heq
      simp [touching]
  | a :: b :: d :: others =>
      simp only [List.cons_append, List.cons.injEq] at heq
      obtain ⟨rfl, rfl, rfl, -⟩ := heq
      simp [tripled?] at htext

/-! ## Literal strings over several lines -/

theorem le_longestRun (mark : Char) (n : Nat) (cs : List Char) : n ≤ longestRun mark n cs := by
  induction cs generalizing n with
  | nil => exact Nat.le_refl n
  | cons c cs ih =>
      rw [longestRun]
      split
      · exact Nat.le_trans (Nat.le_succ n) (ih (n + 1))
      · exact Nat.le_max_left _ _

theorem longestRun_mono (mark : Char) {m n : Nat} (h : m ≤ n) (cs : List Char) :
    longestRun mark m cs ≤ longestRun mark n cs := by
  induction cs generalizing m n with
  | nil => exact h
  | cons c cs ih =>
      simp only [longestRun]
      split
      · exact ih (Nat.succ_le_succ h)
      · omega

theorem longestRun_tail_le (mark c : Char) (cs : List Char) :
    longestRun mark 0 cs ≤ longestRun mark 0 (c :: cs) := by
  rw [longestRun]
  split
  · exact longestRun_mono mark (Nat.zero_le 1) cs
  · exact Nat.le_max_right _ _

theorem not_mem_of_longestRun_eq_zero (h : longestRun mark 0 cs = 0) : mark ∉ cs := by
  induction cs with
  | nil => simp
  | cons c cs ih =>
      have htail := longestRun_tail_le mark c cs
      rw [h] at htail
      rintro (_ | ⟨_, hmem⟩)
      · have hrun := le_longestRun mark (0 + 1) cs
        rw [longestRun, if_pos rfl] at h
        omega
      · exact ih (Nat.le_zero.1 htail) hmem

theorem tripled?_of_longestRun (h : longestRun mark 0 cs ≤ 2) : tripled? mark cs = none := by
  cases htriple : tripled? mark cs with
  | none => rfl
  | some closed =>
      have hrun := le_longestRun mark (0 + 1 + 1 + 1) closed
      rw [eq_of_tripled? htriple] at h
      simp only [longestRun, if_true] at h
      omega

theorem readLiteralLines_append (hplain : ∀ c ∈ cs, c = '\n' ∨ isPrintable c = true)
    (hrun : longestRun '\'' 0 cs ≤ 2) (rest : List Char) :
    readLiteralLines (cs ++ '\'' :: '\'' :: '\'' :: '\n' :: rest) = some (cs, '\n' :: rest) := by
  induction cs with
  | nil => cases rest <;> rfl
  | cons c cs ih =>
      have htext := tripled?_of_longestRun hrun
      have htail := ih (fun d hd => hplain d (List.mem_cons_of_mem c hd))
        (Nat.le_trans (longestRun_tail_le '\'' c cs) hrun)
      have hc := hplain c List.mem_cons_self
      have hreturn : c ≠ '\r' := by rintro rfl; simp [isPrintable] at hc
      rw [List.cons_append, readLiteralLines]
      split
      · rename_i closed hclosed
        rw [(touching_of_tripled? (by decide) htext hclosed).1]
      · rw [if_pos hc, htail]
        rfl
      · exact fun next h => absurd h hreturn

/-! ## Basic strings over several lines -/

theorem exists_of_head?_writeBasicLines {quotes : Nat} {written : List Char}
    (h : writeBasicLines quotes cs = '"' :: written) :
    ∃ tail, cs = '"' :: tail ∧ quotes < 2 ∧ written = writeBasicLines (quotes + 1) tail := by
  cases cs with
  | nil => cases h
  | cons c cs =>
      rw [writeBasicLines] at h
      split at h
      · subst c
        split at h
        · rename_i hlt
          exact ⟨cs, rfl, hlt, (List.cons.inj h).2.symm⟩
        · cases h
      · rename_i hquote
        rcases escape_cases c with ⟨e, he, -⟩ | ⟨he, -⟩
        · rw [he] at h
          cases h
        · rw [he] at h
          exact absurd (List.cons.inj h).1 hquote

theorem tripled?_writeBasicLines (quotes : Nat) (cs : List Char) :
    tripled? '"' (writeBasicLines quotes cs) = none := by
  cases htriple : tripled? '"' (writeBasicLines quotes cs) with
  | none => rfl
  | some closed =>
      obtain ⟨cs₁, -, -, h₁⟩ := exists_of_head?_writeBasicLines (eq_of_tripled? htriple)
      obtain ⟨cs₂, -, -, h₂⟩ := exists_of_head?_writeBasicLines h₁.symm
      obtain ⟨cs₃, -, hlt, -⟩ := exists_of_head?_writeBasicLines h₂.symm
      omega

theorem writeBasicLines_eq_self {quotes : Nat} (h : '\\' ∉ writeBasicLines quotes cs) :
    writeBasicLines quotes cs = cs := by
  induction cs generalizing quotes with
  | nil => rfl
  | cons c cs ih =>
      rw [writeBasicLines] at h ⊢
      split at h
      · rename_i hquote
        split at h
        · rename_i hlt
          rw [if_pos hquote, if_pos hlt, ih fun hmem => h (List.mem_cons_of_mem _ hmem), hquote]
        · exact absurd List.mem_cons_self h
      · rename_i hquote
        rcases escape_cases c with ⟨e, he, -⟩ | ⟨he, -⟩
        · rw [he] at h
          exact absurd List.mem_cons_self h
        · rw [he] at h ⊢
          rw [if_neg hquote, ih fun hmem => h (List.mem_cons_of_mem _ hmem)]
          rfl

theorem readBasicLines_escape {e : List Char} (rest : List Char) (hfold : fold? (e ++ rest) = none)
    (h : readEscape (e ++ rest) = some (c, rest)) :
    readBasicLines ('\\' :: (e ++ rest)) = (readBasicLines rest).map (push c) := by
  have htriple : tripled? '"' ('\\' :: (e ++ rest)) = none := tripled?_cons_of_ne (by decide) _
  rw [readBasicLines]
  split
  · rename_i hclosed
    cases htriple.symm.trans hclosed
  · split
    · rename_i hline
      cases hline
    · rw [if_pos rfl]
      split
      · rename_i hnext
        cases hfold.symm.trans hnext
      · split
        · rename_i hread
          cases h.symm.trans hread
          rfl
        · rename_i hread
          cases h.symm.trans hread

theorem readBasicLines_plain (htriple : tripled? '"' (c :: rest) = none) (hbackslash : c ≠ '\\')
    (h : c = '\n' ∨ isPrintable c = true) :
    readBasicLines (c :: rest) = (readBasicLines rest).map (push c) := by
  rw [readBasicLines]
  split
  · rename_i hclosed
    cases htriple.symm.trans hclosed
  · rcases h with rfl | h
    · rfl
    · obtain ⟨hline, hreturn⟩ := ne_lineEnd_of_isPrintable h
      split
      · rename_i hend
        unfold lineEnd? at hend
        split at hend <;> simp_all
      · rw [if_neg hbackslash, if_pos h]

theorem readBasicLines_closed (h : tripled? '"' cs = some closed) :
    readBasicLines cs = some (touching '"' closed) := by
  have heq := eq_of_tripled? h
  subst heq
  rw [readBasicLines]
  split
  · rename_i hclosed
    cases h.symm.trans hclosed
    rfl
  · rename_i hopen
    cases h.symm.trans hopen

/-- Each character is written so that it is read before what follows, unless a delimiter begins
there. -/
theorem readBasicLines_writeBasicLines_cons (quotes : Nat) (c : Char) (cs rest : List Char)
    (hopen : tripled? '"' (writeBasicLines quotes (c :: cs) ++ rest) = none) :
    ∃ next, readBasicLines (writeBasicLines quotes (c :: cs) ++ rest) =
      (readBasicLines (writeBasicLines next cs ++ rest)).map (push c) := by
  rw [writeBasicLines] at hopen ⊢
  split at hopen
  · rename_i hquote
    subst c
    split at hopen
    · rename_i hlt
      rw [List.cons_append] at hopen
      refine ⟨quotes + 1, ?_⟩
      rw [if_pos rfl, if_pos hlt, List.cons_append,
        readBasicLines_plain hopen (by decide) (.inr (by decide))]
    · rename_i hge
      refine ⟨0, ?_⟩
      rw [if_pos rfl, if_neg hge]
      exact readBasicLines_escape (e := ['"']) (writeBasicLines 0 cs ++ rest) rfl rfl
  · rename_i hquote
    refine ⟨0, ?_⟩
    rw [if_neg hquote, List.append_assoc]
    rcases escape_cases c with ⟨e, he, hread⟩ | ⟨he, hbackslash, hplain⟩
    · rw [he, List.cons_append, readBasicLines_escape _ (hread _).1 (hread _).2]
    · rw [he, List.singleton_append,
        readBasicLines_plain (tripled?_cons_of_ne hquote _) hbackslash hplain]

theorem readBasicLines_writeBasicLines (quotes : Nat) (cs rest : List Char) :
    readBasicLines (writeBasicLines quotes cs ++ '"' :: '"' :: '"' :: '\n' :: rest) =
      some (cs, '\n' :: rest) := by
  induction cs generalizing quotes with
  | nil =>
      rw [writeBasicLines, List.nil_append, readBasicLines_closed rfl]
      cases rest <;> rfl
  | cons c cs ih =>
      cases htriple : tripled? '"'
          (writeBasicLines quotes (c :: cs) ++ '"' :: '"' :: '"' :: '\n' :: rest) with
      | some closed =>
          obtain ⟨htouching, hmarks⟩ :=
            touching_of_tripled? (by decide) (tripled?_writeBasicLines quotes _) htriple
          have hself : writeBasicLines quotes (c :: cs) = c :: cs :=
            writeBasicLines_eq_self fun hmem => absurd (hmarks _ hmem) (by decide)
          rw [readBasicLines_closed htriple, htouching, hself]
      | none =>
          obtain ⟨next, hnext⟩ := readBasicLines_writeBasicLines_cons quotes c cs _ htriple
          rw [hnext, ih]
          rfl

/-! ## Every form -/

theorem lineEnd?_cons_of_isPrintable (h : isPrintable c = true) (rest : List Char) :
    lineEnd? (c :: rest) = none := by
  obtain ⟨hline, hreturn⟩ := ne_lineEnd_of_isPrintable h
  unfold lineEnd?
  split <;> simp_all

theorem lineEnd?_writeBasicLines (hline : '\n' ∉ cs) (rest : List Char) :
    lineEnd? (writeBasicLines 0 cs ++ '"' :: rest) = none := by
  cases cs with
  | nil => rfl
  | cons c cs =>
      have hc : c ≠ '\n' := fun h => hline (h ▸ List.mem_cons_self)
      rw [writeBasicLines]
      split
      · rfl
      · rcases escape_cases c with ⟨e, he, -⟩ | ⟨he, -, hplain⟩
        · rw [he]
          rfl
        · rw [he]
          exact lineEnd?_cons_of_isPrintable (hplain.resolve_left hc) _

/-- A text over several lines begins on a line of its own if it has line breaks. -/
def firstLine (cs : List Char) : List Char := if cs.contains '\n' then ['\n'] else []

theorem dropLineEnd_firstLine {text : List Char} (h : '\n' ∉ cs → lineEnd? text = none) :
    dropLineEnd (firstLine cs ++ text) = text := by
  by_cases hline : '\n' ∈ cs
  · rw [firstLine, if_pos (List.contains_iff_mem.2 hline)]
    rfl
  · rw [firstLine, if_neg (by simpa using hline), List.nil_append, dropLineEnd, h hline]
    rfl

theorem head?_writeBasic (cs : List Char) : (writeBasic cs).head? ≠ some '"' := by
  cases cs with
  | nil => simp [writeBasic]
  | cons c cs =>
      rw [writeBasic, List.flatMap_cons]
      split
      · simp
      · rename_i hquote
        split
        · simp
        · rcases escape_cases c with ⟨e, he, -⟩ | ⟨he, -⟩ <;> simp [he, hquote]

/-- A text that does not start with its delimiter is not between tripled ones. -/
theorem tripled?_oneLine (hline : '\n' ≠ mark) (h : cs.head? ≠ some mark) (rest : List Char) :
    tripled? mark (mark :: (cs ++ mark :: '\n' :: rest)) = none := by
  cases cs with
  | nil => simp [tripled?, hline]
  | cons c cs =>
      cases htriple : tripled? mark (mark :: (c :: cs ++ mark :: '\n' :: rest)) with
      | none => rfl
      | some closed =>
          have heq := (List.cons.inj (eq_of_tripled? htriple)).2
          exact absurd (congrArg some (List.cons.inj heq).1) h

theorem readString_quote (h : tripled? '"' ('"' :: rest) = none) :
    readString ('"' :: rest) = (readBasic rest).map fun read => (String.ofList read.1, read.2) := by
  simp only [readString, h]

theorem readString_apostrophe (h : tripled? '\'' ('\'' :: rest) = none) :
    readString ('\'' :: rest) =
      (readLiteral rest).map fun read => (String.ofList read.1, read.2) := by
  simp only [readString, h]

theorem readString_quotes (rest : List Char) :
    readString ('"' :: '"' :: '"' :: rest) =
      (readBasicLines (dropLineEnd rest)).map fun read => (String.ofList read.1, read.2) := by
  simp [readString, tripled?]

theorem readString_apostrophes (rest : List Char) :
    readString ('\'' :: '\'' :: '\'' :: rest) =
      (readLiteralLines (dropLineEnd rest)).map fun read => (String.ofList read.1, read.2) := by
  simp [readString, tripled?]

theorem readString_basic (cs rest : List Char) :
    readString (writeStringAs .basic cs ++ '\n' :: rest) =
      some (String.ofList cs, '\n' :: rest) := by
  have hsplit : writeStringAs .basic cs ++ '\n' :: rest =
      '"' :: (writeBasic cs ++ '"' :: '\n' :: rest) := by
    simp [writeStringAs, StringForm.delimiter]
  rw [hsplit, readString_quote (tripled?_oneLine (by decide) (head?_writeBasic cs) rest),
    readBasic_writeBasic]
  rfl

theorem readString_literal (hmark : '\'' ∉ cs) (hplain : ∀ c ∈ cs, isPrintable c = true)
    (rest : List Char) :
    readString (writeStringAs .literal cs ++ '\n' :: rest) =
      some (String.ofList cs, '\n' :: rest) := by
  have hsplit : writeStringAs .literal cs ++ '\n' :: rest =
      '\'' :: (cs ++ '\'' :: '\n' :: rest) := by
    simp [writeStringAs, StringForm.delimiter]
  have hhead : cs.head? ≠ some '\'' := fun h => hmark (List.mem_of_head? h)
  rw [hsplit, readString_apostrophe (tripled?_oneLine (by decide) hhead rest),
    readLiteral_append hmark hplain]
  rfl

theorem readString_basicLines (cs rest : List Char) :
    readString (writeStringAs .basicLines cs ++ '\n' :: rest) =
      some (String.ofList cs, '\n' :: rest) := by
  have hsplit : writeStringAs .basicLines cs ++ '\n' :: rest = '"' :: '"' :: '"' ::
      (firstLine cs ++ (writeBasicLines 0 cs ++ '"' :: '"' :: '"' :: '\n' :: rest)) := by
    simp [writeStringAs, StringForm.delimiter, firstLine]
  rw [hsplit, readString_quotes, dropLineEnd_firstLine fun hline =>
    lineEnd?_writeBasicLines hline _, readBasicLines_writeBasicLines]
  rfl

theorem readString_literalLines (hplain : ∀ c ∈ cs, c = '\n' ∨ isPrintable c = true)
    (hrun : longestRun '\'' 0 cs ≤ 2) (rest : List Char) :
    readString (writeStringAs .literalLines cs ++ '\n' :: rest) =
      some (String.ofList cs, '\n' :: rest) := by
  have hsplit : writeStringAs .literalLines cs ++ '\n' :: rest = '\'' :: '\'' :: '\'' ::
      (firstLine cs ++ (cs ++ '\'' :: '\'' :: '\'' :: '\n' :: rest)) := by
    simp [writeStringAs, StringForm.delimiter, firstLine]
  have hfirst (hline : '\n' ∉ cs) :
      lineEnd? (cs ++ '\'' :: '\'' :: '\'' :: '\n' :: rest) = none := by
    cases cs with
    | nil => rfl
    | cons c cs =>
        have hc : c ≠ '\n' := fun h => hline (h ▸ List.mem_cons_self)
        exact lineEnd?_cons_of_isPrintable ((hplain c List.mem_cons_self).resolve_left hc) _
  rw [hsplit, readString_apostrophes, dropLineEnd_firstLine hfirst,
    readLiteralLines_append hplain hrun]
  rfl

/-- A literal form is chosen only for characters that need no escape and do not close it. -/
theorem choose_eq_literal (h : StringForm.choose cs = .literal) :
    '\'' ∉ cs ∧ ∀ c ∈ cs, isPrintable c = true := by
  obtain ⟨hcontrols, hlines, hrun⟩ :
      cs.any needsEscape = false ∧ cs.contains '\n' = false ∧ longestRun '\'' 0 cs = 0 := by
    simp only [StringForm.choose] at h
    grind
  refine ⟨not_mem_of_longestRun_eq_zero hrun, fun c hc => ?_⟩
  have hescape := List.any_eq_false.1 hcontrols c hc
  have hline : c ≠ '\n' := by
    rintro rfl
    rw [List.contains_iff_mem.2 hc] at hlines
    cases hlines
  grind [needsEscape]

theorem choose_eq_literalLines (h : StringForm.choose cs = .literalLines) :
    (∀ c ∈ cs, c = '\n' ∨ isPrintable c = true) ∧ longestRun '\'' 0 cs ≤ 2 := by
  obtain ⟨hcontrols, hrun⟩ : cs.any needsEscape = false ∧ longestRun '\'' 0 cs ≤ 2 := by
    simp only [StringForm.choose] at h
    grind
  refine ⟨fun c hc => ?_, hrun⟩
  have hescape := List.any_eq_false.1 hcontrols c hc
  grind [needsEscape]

theorem readString_writeString (s : String) (rest : List Char) :
    readString (writeString s ++ '\n' :: rest) = some (s, '\n' :: rest) := by
  suffices h : readString (writeStringAs (.choose s.toList) s.toList ++ '\n' :: rest) =
      some (String.ofList s.toList, '\n' :: rest) by rwa [String.ofList_toList] at h
  cases hform : StringForm.choose s.toList with
  | basic => exact readString_basic _ rest
  | basicLines => exact readString_basicLines _ rest
  | literal =>
      obtain ⟨hmark, hplain⟩ := choose_eq_literal hform
      exact readString_literal hmark hplain rest
  | literalLines =>
      obtain ⟨hplain, hrun⟩ := choose_eq_literalLines hform
      exact readString_literalLines hplain hrun rest

end StageAtlas.Toml
