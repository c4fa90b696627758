import Mathlib
import StageAtlas.Proofs.Program.Canonical

/-! # Labels of kinds

A label is read without the blanks around it and without regard to the case of its ASCII letters, so
labels that differ in nothing else name the same kind. A label that names no familiar kind is kept
as it is, blanks and case included.
-/

namespace StageAtlas

namespace Text

variable {c d : Char} {cs ds before after : List Char}

/-! ## Letters and blanks -/

/-- The second character is the first one, or the same letter in another case. Only the letters of
ASCII have another case here. -/
def SameLetter (c d : Char) : Prop := d = c ∨ d = c.toLower ∨ d = c.toUpper

theorem SameLetter.toLower_eq (h : SameLetter c d) : d.toLower = c.toLower := by
  rcases h with rfl | rfl | rfl
  · rfl
  · exact c.toLower_toLower_eq_toLower
  · exact c.toLower_toUpper_eq_toLower

theorem sameLetter_toLower (c : Char) : SameLetter c.toLower c := by
  by_cases hupper : c.isUpper
  · refine .inr (.inr ?_)
    rw [Char.toUpper_toLower_eq_toUpper,
      Char.toUpper_eq_of_not_isLower (Char.not_isLower_of_isUpper hupper)]
  · exact .inl (Char.toLower_eq_of_not_isUpper hupper).symm

theorem isBlank_eq_false_of_isAlpha (h : c.isAlpha = true) : isBlank c = false := by
  have hrange : (65 ≤ c.toNat ∧ c.toNat ≤ 90) ∨ (97 ≤ c.toNat ∧ c.toNat ≤ 122) := by
    simpa [Char.isAlpha, Char.isUpper, Char.isLower, UInt32.le_iff_toNat_le] using h
  simp only [isBlank, Bool.or_eq_false_iff, Bool.and_eq_false_iff, decide_eq_false_iff_not,
    beq_eq_false_iff_ne]
  omega

@[simp] theorem isBlank_toLower (c : Char) : isBlank c.toLower = isBlank c := by
  by_cases halpha : c.isAlpha
  · rw [isBlank_eq_false_of_isAlpha halpha, isBlank_eq_false_of_isAlpha (by simpa using halpha)]
  · have hupper : ¬c.isUpper = true := fun h => halpha (by simp [Char.isAlpha, h])
    rw [Char.toLower_eq_of_not_isUpper hupper]

theorem map_toLower_eq_of_forall₂ (h : List.Forall₂ SameLetter cs ds) :
    ds.map Char.toLower = cs.map Char.toLower := by
  induction h with
  | nil => rfl
  | cons hletter _ ih => rw [List.map_cons, List.map_cons, hletter.toLower_eq, ih]

theorem forall₂_map_toLower (cs : List Char) :
    List.Forall₂ SameLetter (cs.map Char.toLower) cs := by
  induction cs with
  | nil => exact .nil
  | cons c cs ih => exact .cons (sameLetter_toLower c) ih

/-! ## Cutting blanks off -/

theorem map_toLower_trimBlank (cs : List Char) :
    (trimBlank cs).map Char.toLower = trimBlank (cs.map Char.toLower) := by
  have hblank : isBlank ∘ Char.toLower = isBlank := funext isBlank_toLower
  simp [trimBlank, List.dropWhile_map, ← List.map_reverse, hblank]

theorem dropWhile_isBlank_eq_nil (h : ∀ c ∈ cs, isBlank c = true) : cs.dropWhile isBlank = [] :=
  List.dropWhile_eq_nil_iff.2 h

theorem trimBlank_of_forall (h : ∀ c ∈ cs, isBlank c = true) : trimBlank cs = [] := by
  rw [trimBlank, dropWhile_isBlank_eq_nil h]
  rfl

theorem trimBlank_append (hbefore : ∀ c ∈ before, isBlank c = true)
    (hafter : ∀ c ∈ after, isBlank c = true) :
    trimBlank (before ++ cs ++ after) = trimBlank cs := by
  have hreverse : ∀ c ∈ after.reverse, isBlank c = true := by simpa using hafter
  rw [trimBlank, List.append_assoc, List.dropWhile_append_of_pos hbefore, List.dropWhile_append]
  split
  · rename_i hempty
    rw [dropWhile_isBlank_eq_nil hafter, trimBlank, List.isEmpty_iff.1 hempty]
  · rw [List.reverse_append, List.dropWhile_append_of_pos hreverse, trimBlank]

theorem exists_eq_trimBlank (cs : List Char) :
    ∃ before after, cs = before ++ trimBlank cs ++ after ∧
      (∀ c ∈ before, isBlank c = true) ∧ ∀ c ∈ after, isBlank c = true := by
  refine ⟨cs.takeWhile isBlank, ((cs.dropWhile isBlank).reverse.takeWhile isBlank).reverse, ?_,
    fun c hc => List.mem_takeWhile_imp hc, fun c hc => ?_⟩
  · rw [trimBlank, List.append_assoc, ← List.reverse_append, List.takeWhile_append_dropWhile,
      List.reverse_reverse, List.takeWhile_append_dropWhile]
  · exact List.mem_takeWhile_imp (List.mem_reverse.1 hc)

end Text

open Text

namespace StageKind

/-- The kinds that labels can name. -/
def familiar : List StageKind := [parser, control, deparser]

/-- The second label is the first one with letters in other cases, and with blanks added at either
end. -/
def Restyled (label other : String) : Prop :=
  ∃ before middle after, other.toList = before ++ middle ++ after ∧
    (∀ c ∈ before, isBlank c = true) ∧ (∀ c ∈ after, isBlank c = true) ∧
    List.Forall₂ SameLetter label.toList middle

/-- Labels that name a familiar kind, written in whatever way. -/
def Recognized (label : String) : Prop := ∃ kind ∈ familiar, Restyled kind.label label

def IsBlank (label : String) : Prop := ∀ c ∈ label.toList, isBlank c = true

/-- What of a label is compared with the names of kinds. -/
def word (label : String) : List Char := (trimBlank label.toList).map Char.toLower

variable {label other : String} {kind : StageKind}

theorem ofLabel_eq_ite (label : String) :
    ofLabel label =
      if word label = "parser".toList then parser
      else if word label = "control".toList then control
      else if word label = "deparser".toList then deparser
      else if word label = [] then unknown
      else .other label :=
  rfl

theorem word_familiar : ∀ kind ∈ familiar, word kind.label = kind.label.toList := by decide

theorem Restyled.word_eq (h : Restyled label other) : word other = word label := by
  obtain ⟨before, middle, after, hother, hbefore, hafter, hmiddle⟩ := h
  rw [word, word, map_toLower_trimBlank, map_toLower_trimBlank, ← map_toLower_eq_of_forall₂ hmiddle,
    ← map_toLower_trimBlank, ← map_toLower_trimBlank, hother, trimBlank_append hbefore hafter]

theorem restyled_of_word_eq (h : word other = label.toList) : Restyled label other := by
  obtain ⟨before, after, hother, hbefore, hafter⟩ := exists_eq_trimBlank other.toList
  exact ⟨before, trimBlank other.toList, after, hother, hbefore, hafter,
    h ▸ forall₂_map_toLower _⟩

theorem word_eq_iff_restyled (hkind : kind ∈ familiar) :
    word label = kind.label.toList ↔ Restyled kind.label label :=
  ⟨restyled_of_word_eq, fun h => h.word_eq.trans (word_familiar kind hkind)⟩

theorem word_eq_nil_iff : word label = [] ↔ IsBlank label := by
  constructor
  · intro h c hc
    obtain ⟨before, after, hlabel, hbefore, hafter⟩ := exists_eq_trimBlank label.toList
    rw [List.map_eq_nil_iff.1 h, List.append_nil] at hlabel
    rw [hlabel] at hc
    exact (List.mem_append.1 hc).elim (hbefore c) (hafter c)
  · intro h
    rw [word, trimBlank_of_forall h, List.map_nil]

theorem Restyled.restyled_iff (h : Restyled label other) (hkind : kind ∈ familiar) :
    Restyled kind.label other ↔ Restyled kind.label label := by
  rw [← word_eq_iff_restyled hkind, ← word_eq_iff_restyled hkind, h.word_eq]

theorem Restyled.recognized_iff (h : Restyled label other) :
    Recognized other ↔ Recognized label :=
  exists_congr fun _ => and_congr_right fun hkind => h.restyled_iff hkind

theorem Restyled.isBlank_iff (h : Restyled label other) : IsBlank other ↔ IsBlank label := by
  rw [← word_eq_nil_iff, ← word_eq_nil_iff, h.word_eq]

/-! ## What a label names -/

theorem ofLabel_eq_iff (hkind : kind ∈ familiar) :
    ofLabel label = kind ↔ Restyled kind.label label := by
  rw [← word_eq_iff_restyled hkind, ofLabel_eq_ite]
  obtain rfl | rfl | rfl : kind = parser ∨ kind = control ∨ kind = deparser := by
    simpa [familiar] using hkind
  all_goals
    split_ifs <;> simp_all [StageKind.label, unknown]

theorem ofLabel_of_isBlank (h : IsBlank label) : ofLabel label = unknown := by
  rw [ofLabel_eq_ite, word_eq_nil_iff.2 h]
  rfl

theorem ofLabel_of_not_recognized (h : ¬Recognized label) (hblank : ¬IsBlank label) :
    ofLabel label = .other label := by
  have hword (kind : StageKind) (hkind : kind ∈ familiar) : word label ≠ kind.label.toList :=
    fun hword => h ⟨kind, hkind, restyled_of_word_eq hword⟩
  have hparser : word label ≠ "parser".toList := hword parser (by simp [familiar])
  have hcontrol : word label ≠ "control".toList := hword control (by simp [familiar])
  have hdeparser : word label ≠ "deparser".toList := hword deparser (by simp [familiar])
  have hnil : word label ≠ [] := fun hnil => hblank (word_eq_nil_iff.1 hnil)
  rw [ofLabel_eq_ite, if_neg hparser, if_neg hcontrol, if_neg hdeparser, if_neg hnil]

theorem ofLabel_eq_of_restyled (h : Restyled label other)
    (hlabel : Recognized label ∨ IsBlank label) : ofLabel other = ofLabel label := by
  rcases hlabel with ⟨kind, hkind, hlabel⟩ | hblank
  · rw [(ofLabel_eq_iff hkind).2 hlabel]
    exact (ofLabel_eq_iff hkind).2 ((h.restyled_iff hkind).2 hlabel)
  · rw [ofLabel_of_isBlank hblank, ofLabel_of_isBlank (h.isBlank_iff.2 hblank)]

theorem rank_eq_of_restyled (h : Restyled label other) :
    (ofLabel other).rank = (ofLabel label).rank := by
  by_cases hlabel : Recognized label ∨ IsBlank label
  · rw [ofLabel_eq_of_restyled h hlabel]
  · obtain ⟨hrecognized, hblank⟩ := not_or.1 hlabel
    rw [ofLabel_of_not_recognized hrecognized hblank,
      ofLabel_of_not_recognized (h.recognized_iff.not.2 hrecognized) (h.isBlank_iff.not.2 hblank)]
    rfl

/-- Labels that differ in nothing but case and outer blanks rank alike, and name the same kind
unless they name none; then they are kept as they are. The label of a kind names this kind, so no
stage that was decoded keeps a label that names a familiar one. -/
theorem ofLabel_restyled :
    (∀ label, ofLabel (ofLabel label).label = ofLabel label) ∧
    (∀ label other, Restyled label other →
      (ofLabel other).rank = (ofLabel label).rank ∧
      (Recognized label ∨ IsBlank label → ofLabel other = ofLabel label)) ∧
    (∀ kind ∈ familiar, ∀ label, ofLabel label = kind ↔ Restyled kind.label label) ∧
    (∀ label, IsBlank label → ofLabel label = unknown) ∧
    (∀ label, ¬Recognized label → ¬IsBlank label → ofLabel label = .other label) ∧
    ∀ v : Json, ∀ stage ∈ (Program.decode v).stages, ∀ label,
      stage.kind = .other label → ofLabel label ∉ familiar := by
  refine ⟨ofLabel_label_ofLabel,
    fun label other h => ⟨rank_eq_of_restyled h, ofLabel_eq_of_restyled h⟩,
    fun kind hkind label => ofLabel_eq_iff hkind, fun label => ofLabel_of_isBlank,
    fun label => ofLabel_of_not_recognized, fun v stage hstage label hkind => ?_⟩
  have hsame : ofLabel label = .other label := by
    simpa [hkind, StageKind.label] using (Program.canonical_decode v).kinds stage hstage
  simp [hsame, familiar]

def packaged : Json := .obj [("main", .obj [("type", .str " Package")])]

/-- `deparser` in mixed case between blanks beyond ASCII, a package, and a letter that only beyond
ASCII is the other case of `s`. -/
theorem ofLabel_restyled_mixed :
    Restyled "deparser" "\u2003DePaRsEr\u00a0" ∧
    ofLabel "\u2003DePaRsEr\u00a0" = ofLabel "deparser" ∧
    deparser ∈ familiar ∧ ofLabel "\u2003DePaRsEr\u00a0" = deparser ∧
    IsBlank "\u3000\t" ∧ ofLabel "\u3000\t" = unknown ∧
    ¬Recognized "par\u017fer" ∧ ¬IsBlank "par\u017fer" ∧
    ofLabel "par\u017fer" = .other "par\u017fer" ∧
    Stage.bare "main" (.other " Package") ∈ (Program.decode packaged).stages ∧
    ofLabel " Package" ∉ familiar := by
  have hdeparser : deparser ∈ familiar := by simp [familiar]
  have hstyle : Restyled "deparser" "\u2003DePaRsEr\u00a0" := restyled_of_word_eq (by decide)
  have hrecognized : Recognized "deparser" := ⟨deparser, hdeparser, restyled_of_word_eq (by decide)⟩
  have hblank : IsBlank "\u3000\t" := word_eq_nil_iff.1 (by decide)
  have hwords : ∀ kind ∈ familiar, word "par\u017fer" ≠ kind.label.toList := by decide
  have hnone : ¬Recognized "par\u017fer" := fun ⟨kind, hkind, h⟩ =>
    hwords kind hkind ((word_eq_iff_restyled hkind).2 h)
  have hfull : ¬IsBlank "par\u017fer" := fun h => absurd (word_eq_nil_iff.2 h) (by decide)
  have hstage : Stage.bare "main" (.other " Package") ∈ (Program.decode packaged).stages := by
    decide
  obtain ⟨-, hrestyled, hkinds, hblanks, hkept, hdecoded⟩ := ofLabel_restyled
  exact ⟨hstyle, (hrestyled _ _ hstyle).2 (.inl hrecognized), hdeparser,
    (hkinds _ hdeparser _).2 hstyle, hblank, hblanks _ hblank, hnone, hfull, hkept _ hnone hfull,
    hstage, hdecoded _ _ hstage _ rfl⟩

end StageKind

end StageAtlas
