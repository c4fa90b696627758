import StageAtlas.Proofs.Preferences.Ranges
import StageAtlas.Proofs.Storage.Files
import StageAtlas.Proofs.Toml.Documents

/-! # Preferences that are kept

The document of finite preferences reads as the table that describes them, so what a file of
preferences gives back are the sanitized ones, and what was once loaded stays as it is.
-/

namespace StageAtlas

open Toml (Entries Says Spells Bare)

namespace Preferences

variable {preferences : Preferences}

/-! ## The document -/

def rootEntries (preferences : Preferences) : Entries :=
  [("version", .integer preferences.version.toNat)]

def appearanceEntries (appearance : Appearance) : Entries :=
  [("dark_mode", .boolean appearance.darkMode), ("font_scale", .float appearance.fontScale.convert)]

def layoutEntries (layout : Layout) : Entries :=
  [("orientation", .string layout.orientation.word),
    ("stage_spacing", .float layout.spacing.convert)]

def loggingEntries (logging : Logging) : Entries :=
  [("filter", .string logging.filter), ("log_to_file", .boolean logging.toFile)]

def sectionEntries (preferences : Preferences) : List (String × Entries) :=
  [("ui", appearanceEntries preferences.appearance), ("layout", layoutEntries preferences.layout),
    ("logging", loggingEntries preferences.logging)]

theorem says_line {key : String} {t rest : List Char} {v : Toml} {statements : List Toml.Statement}
    (hkey : Bare key.toList) (hv : Spells t v) (hrest : Says rest statements) :
    Says (line key t ++ rest) (.assignment (Toml.field (key, v)) :: statements) := by
  have hline := hrest.assignment hkey hv
  simpa [line, Toml.field] using hline

theorem says_heading {name : String} {rest : List Char} {statements : List Toml.Statement}
    (hname : Bare name.toList) (hrest : Says rest statements) :
    Says (heading name ++ rest) (.header ⟨[], name, false⟩ :: statements) := by
  have hheading := hrest.header hname
  simpa [heading] using hheading

theorem bare_names : ∀ name ∈ ["version", "ui", "dark_mode", "font_scale", "layout", "orientation",
    "stage_spacing", "logging", "filter", "log_to_file"], Bare name.toList := by
  simp [Bare, Toml.isBare]

/-- The lines of finite preferences say what the preferences are. -/
theorem says_lines (hscale : preferences.appearance.fontScale.isFinite = true)
    (hspacing : preferences.layout.spacing.isFinite = true) :
    Says preferences.lines.flatten
      (Toml.outline preferences.rootEntries preferences.sectionEntries) := by
  have hwithin := BinaryFormat.single_within_double
  have hversion : preferences.version.toNat < 2 ^ 63 :=
    Nat.lt_trans preferences.version.toNat_lt (by decide)
  simp only [lines, List.flatten_cons, List.flatten_nil]
  refine says_line (bare_names _ (by simp)) (Toml.spells_writeNat hversion) ?_
  refine says_heading (bare_names _ (by simp)) ?_
  refine says_line (bare_names _ (by simp)) (Toml.spells_writeBool _) ?_
  refine says_line (bare_names _ (by simp))
    (Toml.spells_writeFloat (Binary.isFinite_convert hwithin hscale)) ?_
  refine says_heading (bare_names _ (by simp)) ?_
  refine says_line (bare_names _ (by simp)) (Toml.spells_writeString _) ?_
  refine says_line (bare_names _ (by simp))
    (Toml.spells_writeFloat (Binary.isFinite_convert hwithin hspacing)) ?_
  refine says_heading (bare_names _ (by simp)) ?_
  refine says_line (bare_names _ (by simp)) (Toml.spells_writeString _) ?_
  refine says_line (bare_names _ (by simp)) (Toml.spells_writeBool _) ?_
  exact Toml.says_nil

theorem read?_text (hscale : preferences.appearance.fontScale.isFinite = true)
    (hspacing : preferences.layout.spacing.isFinite = true) :
    Toml.read? preferences.text =
      some (Toml.contents preferences.rootEntries preferences.sectionEntries) :=
  Toml.read?_of_says (says_lines hscale hspacing) rfl
    (by simp [Toml.contents, rootEntries, sectionEntries])
    (by simp [sectionEntries, appearanceEntries, layoutEntries, loggingEntries])

/-! ## What the document describes -/

theorem ofWord?_word (orientation : Orientation) :
    Orientation.ofWord? orientation.word = some orientation := by
  cases orientation <;> decide

theorem single?_convert {x : Single} (h : x.isFinite = true) :
    Toml.single? (.float x.convert) = some x := by
  rw [Toml.single?, Binary.convert_convert BinaryFormat.single_within_double h]

theorem ofToml?_appearanceEntries {appearance : Appearance}
    (h : appearance.fontScale.isFinite = true) :
    Appearance.ofToml? (.table (appearanceEntries appearance)) = some appearance := by
  simp [Appearance.ofToml?, appearanceEntries, Toml.isRecord, Toml.part?, List.lookup_cons,
    Toml.orStandard, Toml.bool?, single?_convert h]

theorem ofToml?_layoutEntries {layout : Layout} (h : layout.spacing.isFinite = true) :
    Layout.ofToml? (.table (layoutEntries layout)) = some layout := by
  simp [Layout.ofToml?, layoutEntries, Toml.isRecord, Toml.part?, List.lookup_cons, Toml.orStandard,
    Orientation.ofToml?, ofWord?_word, single?_convert h]

theorem ofToml?_loggingEntries (logging : Logging) :
    Logging.ofToml? (.table (loggingEntries logging)) = some logging := by
  simp [Logging.ofToml?, loggingEntries, Toml.isRecord, Toml.part?, List.lookup_cons,
    Toml.orStandard, Toml.string?, Toml.bool?]

theorem natural32?_toNat (n : UInt32) : Toml.natural32? (.integer n.toNat) = some n := by
  have hlt : n.toNat < Nat.pow 2 32 := n.toNat_lt
  simp [Toml.natural32?, hlt]

theorem ofToml?_contents (hscale : preferences.appearance.fontScale.isFinite = true)
    (hspacing : preferences.layout.spacing.isFinite = true) :
    ofToml? (.table (Toml.contents preferences.rootEntries preferences.sectionEntries)) =
      some preferences := by
  simp [ofToml?, Toml.contents, rootEntries, sectionEntries, Toml.isRecord, Toml.part?,
    List.lookup_cons, Toml.orStandard, natural32?_toNat, ofToml?_appearanceEntries hscale,
    ofToml?_layoutEntries hspacing, ofToml?_loggingEntries]

theorem parse?_text (hscale : preferences.appearance.fontScale.isFinite = true)
    (hspacing : preferences.layout.spacing.isFinite = true) :
    parse? preferences.text = some preferences.sanitize := by
  simp only [parse?, read?_text hscale hspacing, ofToml?_contents hscale hspacing,
    Option.bind_eq_bind, Option.bind_some]
  rfl

/-! ## Saving and loading -/

theorem write_of_save {disk saved : Disk} {path : Path}
    (h : save preferences disk path = .ok saved) :
    ∃ ready : Disk, ready.write path preferences.text = .ok saved := by
  unfold save at h
  split at h
  · obtain ⟨ready, -, hwrite⟩ := exists_of_bind_eq_ok h
    exact ⟨ready, attempt_eq_ok_iff.1 hwrite⟩
  · exact ⟨disk, attempt_eq_ok_iff.1 h⟩

theorem load_of_save {disk saved : Disk} {path : Path}
    (hscale : preferences.appearance.fontScale.isFinite = true)
    (hspacing : preferences.layout.spacing.isFinite = true)
    (h : save preferences disk path = .ok saved) :
    load saved path = .ok preferences.sanitize := by
  obtain ⟨ready, hwrite⟩ := write_of_save h
  exact load_of_parse? (Disk.has_write hwrite) (Disk.read_write hwrite)
    (parse?_text hscale hspacing)

/-- The preferences after they were saved somewhere and loaded from there. -/
def renew (preferences : Preferences) (place : Disk × Path) : Outcome Preferences := do
  let disk ← save preferences place.1 place.2
  load disk place.2

theorem renew_of_save (hrange : preferences.InRange) {place : Disk × Path} {saved : Disk}
    (h : save preferences place.1 place.2 = .ok saved) :
    preferences.renew place = .ok preferences := by
  rw [renew, bind_of_eq_ok h, load_of_save hrange.scale_finite hrange.spacing_finite h,
    hrange.sanitize_eq]

theorem foldlM_renew (hrange : preferences.InRange) {places : List (Disk × Path)}
    (h : ∀ place ∈ places, ∃ saved, save preferences place.1 place.2 = .ok saved) :
    places.foldlM renew preferences = .ok preferences := by
  induction places with
  | nil => rfl
  | cons place places ih =>
      obtain ⟨saved, hsaved⟩ := h place List.mem_cons_self
      rw [List.foldlM_cons, bind_of_eq_ok (renew_of_save hrange hsaved)]
      exact ih fun later hlater => h later (List.mem_cons_of_mem place hlater)

/-- A file in the working directory can always be saved where there is no directory. -/
theorem save_working (preferences : Preferences) (disk : Disk)
    (h : disk.get? ⟨.above 0, ["config.toml"]⟩ ≠ some .directory) :
    save preferences disk "config.toml" =
      .ok (disk.put ⟨.above 0, ["config.toml"]⟩ (.file preferences.text.toUTF8)) := by
  have hparent : Path.parent? "config.toml" = some "" := by decide
  have hdirectory : disk.createDirectories "" = .ok disk := by
    rw [Disk.createDirectories, if_pos rfl]
  have hlocate : disk.locateNew? "config.toml" = .ok (some ⟨.above 0, ["config.toml"]⟩) := rfl
  have hwrite : disk.write "config.toml" preferences.text =
      .ok (disk.put ⟨.above 0, ["config.toml"]⟩ (.file preferences.text.toUTF8)) := by
    rw [Disk.write, Disk.writeBytes, bind_of_eq_ok hlocate]
    simp only
    rw [if_neg (by decide)]
  simp only [save, hparent, hdirectory]
  exact attempt_eq_ok_iff.2 hwrite

/-- What was saved is loaded with its numbers in range, so exactly if they are; and what was loaded
stays as it is, however often it is saved and loaded. -/
theorem load_after_save :
    (∀ (preferences : Preferences) (disk saved : Disk) (path : Path),
      preferences.appearance.fontScale.isFinite = true →
      preferences.layout.spacing.isFinite = true →
      save preferences disk path = .ok saved →
        load saved path = .ok preferences.sanitize ∧
        (leastScale.le preferences.appearance.fontScale = true →
          preferences.appearance.fontScale.le greatestScale = true →
          (0 : Single).lt preferences.layout.spacing = true →
            load saved path = .ok preferences)) ∧
    ∀ (preferences : Preferences) (disk : Disk) (path : Path) (places : List (Disk × Path)),
      load disk path = .ok preferences →
      (∀ place ∈ places, ∃ saved, save preferences place.1 place.2 = .ok saved) →
        places.foldlM renew preferences = .ok preferences := by
  constructor
  · intro preferences disk saved path hscale hspacing hsave
    have hload := load_of_save hscale hspacing hsave
    refine ⟨hload, fun hleast hgreatest hpos => ?_⟩
    have hrange : preferences.InRange := ⟨hscale, hleast, hgreatest, hspacing, hpos⟩
    rw [hload, hrange.sanitize_eq]
  · intro preferences disk path places hload hsaves
    exact foldlM_renew (inRange_of_load hload) hsaves

/-- Preferences with a font scale that is too large and a filter that takes escapes. -/
def oversized : Preferences :=
  ⟨7, ⟨false, 5⟩, ⟨.horizontal, 200⟩, ⟨"p4lens=\"debug\"\\\n\x07é", true⟩⟩

theorem load_after_save_oversized :
    ∃ saved again, save oversized .empty "config.toml" = .ok saved ∧
      load saved "config.toml" = .ok oversized.sanitize ∧ oversized.sanitize ≠ oversized ∧
      save oversized.sanitize saved "config.toml" = .ok again ∧
      load again "config.toml" = .ok oversized.sanitize ∧
      [(saved, "config.toml"), (again, "config.toml")].foldlM renew oversized.sanitize =
        .ok oversized.sanitize := by
  have hput (disk : Disk) (bytes : ByteArray) :
      (disk.put ⟨.above 0, ["config.toml"]⟩ (.file bytes)).get? ⟨.above 0, ["config.toml"]⟩ ≠
        some .directory := by
    rw [Disk.get?_put_self _ (by decide)]
    simp
  have hsave := save_working oversized .empty (by simp [Disk.get?, Disk.empty])
  have hload := (load_after_save.1 oversized .empty _ "config.toml" (by decide) (by decide) hsave).1
  have hagain := save_working oversized.sanitize _ (hput .empty oversized.text.toUTF8)
  have hsame := (load_after_save.1 oversized.sanitize _ _ "config.toml" (by decide) (by decide)
    hagain).2 (by decide) (by decide) (by decide)
  refine ⟨_, _, hsave, hload, by decide, hagain, hsame,
    load_after_save.2 _ _ _ _ hload fun place hplace => ?_⟩
  obtain rfl | rfl : place = _ ∨ place = _ := by simpa using hplace
  · exact ⟨_, hagain⟩
  · exact ⟨_, save_working _ _ (hput _ _)⟩

end Preferences

end StageAtlas
