import StageAtlas.Proofs.Preferences.Ranges
import StageAtlas.Proofs.Storage.Files

/-! # Sanitized preferences

Whatever number a file gives, also one that is not finite, the font scale that is used lies between
its bounds and the distance of cards is finite and positive. Sanitizing changes nothing else, and
these two only where they are out of range.
-/

namespace StageAtlas

namespace Binary

variable {f : BinaryFormat} {a b c : Binary f}

theorem isFinite_of_between (hb : b.isFinite = true) (hc : c.isFinite = true)
    (hlow : b.le a = true) (hhigh : a.le c = true) : a.isFinite = true := by
  cases a with
  | nan => cases hhigh
  | signed na oa _ =>
      cases b with
      | nan => cases hlow
      | signed nb ob _ =>
          cases c with
          | nan => cases hhigh
          | signed nc oc _ =>
              simp only [le, rank?, decide_eq_true_eq, isFinite] at hlow hhigh hb hc ⊢
              cases na <;> cases nb <;> cases nc <;> simp at hlow hhigh <;> omega

end Binary

namespace Preferences

variable {preferences : Preferences}

/-! ## What sanitizing changes -/

theorem sanitizeScale_eq_iff (scale : Single) :
    sanitizeScale scale = scale ↔ leastScale.le scale = true ∧ scale.le greatestScale = true := by
  constructor
  · intro h
    obtain ⟨hleast, hgreatest, -⟩ := sanitizeScale_between scale
    rw [h] at hleast hgreatest
    exact ⟨hleast, hgreatest⟩
  · rintro ⟨hleast, hgreatest⟩
    have hfinite : scale.isFinite = true :=
      Binary.isFinite_of_between (by decide) (by decide) hleast hgreatest
    rw [sanitizeScale, if_pos hfinite, Binary.clamp_eq_self hleast hgreatest]

theorem sanitizeSpacing_eq_iff (spacing : Single) :
    sanitizeSpacing spacing = spacing ↔
      spacing.isFinite = true ∧ (0 : Single).lt spacing = true := by
  constructor
  · intro h
    have hpos := sanitizeSpacing_pos spacing
    rwa [h] at hpos
  · rintro ⟨hfinite, hpos⟩
    rw [sanitizeSpacing, hfinite, hpos]
    rfl

theorem sanitize_sanitize (preferences : Preferences) :
    preferences.sanitize.sanitize = preferences.sanitize :=
  (inRange_sanitize preferences).sanitize_eq

/-! ## What is loaded -/

theorem loadOrStandard_of_ok {disk : Disk} {path : Path} (h : load disk path = .ok preferences) :
    loadOrStandard disk path = (preferences, none) := by
  rw [loadOrStandard, h, orStandard]

theorem loadOrStandard_of_error {disk : Disk} {path : Path} {failure : Failure}
    (h : load disk path = .error failure) :
    loadOrStandard disk path = (standard, some failure) := by
  rw [loadOrStandard, h, orStandard]

theorem inRange_loadOrStandard (disk : Disk) (path : Path) :
    (loadOrStandard disk path).1.InRange := by
  cases h : load disk path with
  | ok preferences => simpa [loadOrStandard_of_ok h] using inRange_of_load h
  | error failure => simpa [loadOrStandard_of_error h] using inRange_standard

theorem isSome_loadOrStandard_iff (disk : Disk) (path : Path) :
    (loadOrStandard disk path).2.isSome ↔ ∃ failure, load disk path = .error failure := by
  cases h : load disk path with
  | ok preferences => simp [loadOrStandard_of_ok h]
  | error failure => simp [loadOrStandard_of_error h]

/-- What is loaded from a file is in range, whatever its content, and what stands in for a file that
cannot be loaded is standard. Sanitizing keeps all but the two numbers, and keeps each of these
just when it is in range. -/
theorem loaded_in_range :
    (∀ (disk : Disk) (path : Path) (preferences : Preferences),
      load disk path = .ok preferences → preferences.InRange) ∧
    (∀ (disk : Disk) (path : Path),
      (loadOrStandard disk path).1.InRange ∧
      ((loadOrStandard disk path).2.isSome ↔ ∃ failure, load disk path = .error failure) ∧
      (∀ failure, load disk path = .error failure →
        loadOrStandard disk path = (standard, some failure)) ∧
      ∀ preferences, load disk path = .ok preferences →
        loadOrStandard disk path = (preferences, none)) ∧
    ∀ preferences : Preferences,
      preferences.sanitize.sanitize = preferences.sanitize ∧
      (∃ scale spacing, preferences.sanitize =
        { preferences with
          appearance := { preferences.appearance with fontScale := scale }
          layout := { preferences.layout with spacing } }) ∧
      (preferences.sanitize.appearance.fontScale = preferences.appearance.fontScale ↔
        leastScale.le preferences.appearance.fontScale = true ∧
          preferences.appearance.fontScale.le greatestScale = true) ∧
      (preferences.sanitize.layout.spacing = preferences.layout.spacing ↔
        preferences.layout.spacing.isFinite = true ∧
          (0 : Single).lt preferences.layout.spacing = true) := by
  refine ⟨fun disk path preferences => inRange_of_load, fun disk path => ?_, fun preferences => ?_⟩
  · exact ⟨inRange_loadOrStandard disk path, isSome_loadOrStandard_iff disk path,
      fun failure => loadOrStandard_of_error, fun preferences => loadOrStandard_of_ok⟩
  · exact ⟨sanitize_sanitize preferences, ⟨_, _, rfl⟩, sanitizeScale_eq_iff _,
      sanitizeSpacing_eq_iff _⟩

/-! ## A file by itself -/

/-- A disk on which there is nothing but one file in the working directory. -/
def diskWith (content : String) : Disk :=
  Disk.empty.put ⟨.above 0, ["config.toml"]⟩ (.file content.toUTF8)

theorem write_diskWith (content : String) :
    Disk.empty.write "config.toml" content = .ok (diskWith content) := by
  have hlocate : Disk.empty.locateNew? "config.toml" = .ok (some ⟨.above 0, ["config.toml"]⟩) := rfl
  rw [Disk.write, Disk.writeBytes, bind_of_eq_ok hlocate]
  rfl

theorem has_diskWith (content : String) : (diskWith content).has "config.toml" = true :=
  Disk.has_write (write_diskWith content)

theorem read_diskWith (content : String) : (diskWith content).read "config.toml" = .ok content :=
  Disk.read_write (write_diskWith content)

theorem load_diskWith {content : String} (h : parse? content = some preferences) :
    load (diskWith content) "config.toml" = .ok preferences :=
  load_of_parse? (has_diskWith content) (read_diskWith content) h

theorem exists_load_diskWith_eq_error {content : String} (h : parse? content = none) :
    ∃ failure, load (diskWith content) "config.toml" = .error failure := by
  rw [load, if_pos (has_diskWith content),
    bind_of_eq_ok (attempt_eq_ok_iff.2 (read_diskWith content)), h]
  exact ⟨_, rfl⟩

/-- A font scale that is no number, a distance that rounds to zero, and a version that is no
number. -/
theorem loaded_in_range_special :
    (∃ preferences, load (diskWith "ui.font_scale = nan\nlayout.stage_spacing = 1e-60\n")
        "config.toml" = .ok preferences ∧ preferences.InRange ∧
      loadOrStandard (diskWith "ui.font_scale = nan\nlayout.stage_spacing = 1e-60\n")
        "config.toml" = (preferences, none)) ∧
    ∃ failure, load (diskWith "version = two\n") "config.toml" = .error failure ∧
      loadOrStandard (diskWith "version = two\n") "config.toml" = (standard, some failure) := by
  obtain ⟨hrange, hfallback, -⟩ := loaded_in_range
  have hload : load (diskWith "ui.font_scale = nan\nlayout.stage_spacing = 1e-60\n")
      "config.toml" = .ok standard := load_diskWith (by decide +kernel)
  obtain ⟨failure, hfailure⟩ : ∃ failure, load (diskWith "version = two\n") "config.toml" =
      .error failure := exists_load_diskWith_eq_error (by decide +kernel)
  exact ⟨⟨_, hload, hrange _ _ _ hload, (hfallback _ _).2.2.2 _ hload⟩,
    failure, hfailure, (hfallback _ _).2.2.1 _ hfailure⟩

end Preferences

end StageAtlas
