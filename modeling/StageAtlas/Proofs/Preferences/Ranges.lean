import StageAtlas.Preferences.Storage
import StageAtlas.Proofs.History

/-! # Preferences in range

Whatever the numbers of some preferences are, sanitizing puts them in range, and it leaves those
alone that already are. What is loaded has been sanitized or is standard.
-/

namespace StageAtlas

namespace Binary

variable {f : BinaryFormat} {a b c : Binary f}

theorem le_total (ha : a.isFinite = true) (hb : b.isFinite = true) (h : b.lt a = false) :
    a.le b = true := by
  cases a with
  | nan => cases ha
  | signed na oa _ =>
      cases b with
      | nan => cases hb
      | signed nb ob _ => simpa [lt, le, rank?] using h

theorem lt_eq_false_of_le (h : a.le b = true) : b.lt a = false := by
  cases a with
  | nan => cases h
  | signed na oa _ =>
      cases b with
      | nan => cases h
      | signed nb ob _ => simpa [lt, le, rank?] using h

theorem clamp_eq_self (hlow : b.le a = true) (hhigh : a.le c = true) : a.clamp b c = a := by
  simp [clamp, lt_eq_false_of_le hlow, lt_eq_false_of_le hhigh]

theorem le_refl (h : a.isFinite = true) : a.le a = true := by
  cases a with
  | nan => cases h
  | signed => simp [le, rank?]

theorem clamp_between (ha : a.isFinite = true) (hb : b.isFinite = true) (hc : c.isFinite = true)
    (h : b.le c = true) :
    b.le (a.clamp b c) = true ∧ (a.clamp b c).le c = true ∧ (a.clamp b c).isFinite = true := by
  unfold clamp
  split
  · exact ⟨le_refl hb, h, hb⟩
  · rename_i hlow
    split
    · exact ⟨h, le_refl hc, hc⟩
    · rename_i hhigh
      exact ⟨le_total hb ha (by simpa using hlow), le_total ha hc (by simpa using hhigh), ha⟩

end Binary

namespace Preferences

/-- Preferences whose font scale and spacing are usable. -/
structure InRange (preferences : Preferences) : Prop where
  scale_finite : preferences.appearance.fontScale.isFinite = true
  least_le : leastScale.le preferences.appearance.fontScale = true
  le_greatest : preferences.appearance.fontScale.le greatestScale = true
  spacing_finite : preferences.layout.spacing.isFinite = true
  spacing_pos : (0 : Single).lt preferences.layout.spacing = true

variable {preferences : Preferences}

theorem sanitizeScale_between (scale : Single) :
    leastScale.le (sanitizeScale scale) = true ∧ (sanitizeScale scale).le greatestScale = true ∧
      (sanitizeScale scale).isFinite = true := by
  refine Binary.clamp_between ?_ (by decide) (by decide) (by decide)
  split
  · assumption
  · decide

theorem sanitizeSpacing_pos (spacing : Single) :
    (sanitizeSpacing spacing).isFinite = true ∧
      (0 : Single).lt (sanitizeSpacing spacing) = true := by
  unfold sanitizeSpacing
  split
  · rename_i h
    exact Bool.and_eq_true_iff.1 h
  · decide

theorem inRange_sanitize (preferences : Preferences) : preferences.sanitize.InRange := by
  obtain ⟨hleast, hgreatest, hscale⟩ := sanitizeScale_between preferences.appearance.fontScale
  obtain ⟨hspacing, hpos⟩ := sanitizeSpacing_pos preferences.layout.spacing
  exact ⟨hscale, hleast, hgreatest, hspacing, hpos⟩

theorem inRange_standard : standard.InRange := by
  constructor <;> decide

theorem InRange.sanitize_eq (h : preferences.InRange) : preferences.sanitize = preferences := by
  have hscale : sanitizeScale preferences.appearance.fontScale =
      preferences.appearance.fontScale := by
    rw [sanitizeScale, if_pos h.scale_finite, Binary.clamp_eq_self h.least_le h.le_greatest]
  have hspacing : sanitizeSpacing preferences.layout.spacing = preferences.layout.spacing := by
    rw [sanitizeSpacing, h.spacing_finite, h.spacing_pos]
    rfl
  simp only [sanitize, hscale, hspacing]

/-! ## Loading -/

theorem attempt_eq_ok_iff {α : Type} {result : Except DiskFault α} {what : String} {path : Path}
    {value : α} : attempt result what path = .ok value ↔ result = .ok value := by
  cases result <;> simp [attempt, Outcome.withContext]

theorem load_of_not_has {disk : Disk} {path : Path} (h : disk.has path = false) :
    load disk path = .ok standard := by
  rw [load, h]
  rfl

theorem load_of_parse? {disk : Disk} {path : Path} {content : String}
    (hhas : disk.has path = true) (hread : disk.read path = .ok content)
    (hparse : parse? content = some preferences) : load disk path = .ok preferences := by
  rw [load, if_pos hhas, bind_of_eq_ok (attempt_eq_ok_iff.2 hread), hparse]
  rfl

theorem exists_parse?_of_load {disk : Disk} {path : Path} (hhas : disk.has path = true)
    (h : load disk path = .ok preferences) :
    ∃ content, disk.read path = .ok content ∧ parse? content = some preferences := by
  rw [load, if_pos hhas] at h
  obtain ⟨content, hread, h⟩ := exists_of_bind_eq_ok h
  refine ⟨content, attempt_eq_ok_iff.1 hread, ?_⟩
  cases hparse : parse? content with
  | none => rw [hparse] at h; cases h
  | some found => rw [hparse] at h; rw [Except.ok.inj h]

theorem inRange_of_load {disk : Disk} {path : Path} (h : load disk path = .ok preferences) :
    preferences.InRange := by
  cases hhas : disk.has path with
  | false =>
      rw [load_of_not_has hhas] at h
      exact Except.ok.inj h ▸ inRange_standard
  | true =>
      obtain ⟨content, -, hparse⟩ := exists_parse?_of_load hhas h
      obtain ⟨members, -, hparse⟩ := Option.bind_eq_some_iff.1 hparse
      obtain ⟨found, -, hfound⟩ := Option.bind_eq_some_iff.1 hparse
      exact Option.some.inj hfound ▸ inRange_sanitize found

end Preferences

end StageAtlas
