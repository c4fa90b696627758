import StageAtlas.Proofs.History
import StageAtlas.Storage.Disk

/-! # Files that were written

Walking along a path passes through directories only. A file is never put where a directory is, so
the way to it is the same afterwards, and what is found at its end is the file.
-/

namespace StageAtlas.Disk

variable {disk next : Disk} {place finish : Place} {path : Path} {entry : DiskEntry}

/-! ## The way to a file -/

theorem get?_of_step {piece : List Char} (h : disk.step place piece = .ok finish) :
    disk.get? place = some .directory := by
  unfold step at h
  split at h
  · cases h
  · cases h
  · assumption

theorem step_congr {piece : List Char} (h : next.get? place = disk.get? place) :
    next.step place piece = disk.step place piece := by
  simp only [step, h]

theorem eq_of_step_here (h : disk.step place Path.here = .ok finish) : finish = place := by
  rw [step, get?_of_step h] at h
  exact (Except.ok.inj h).symm

theorem names_of_step {name : List Char} (hname : ¬(name = Path.here ∨ name = Path.above))
    (h : disk.step place name = .ok finish) : finish.names ≠ [] := by
  obtain ⟨hhere, habove⟩ := not_or.1 hname
  simp only [step, get?_of_step h, if_neg hhere, if_neg habove] at h
  split at h
  · cases h
  · cases Except.ok.inj h
    simp [Place.child]

/-- A walk is the same after something was put where there is no directory. -/
theorem walk_put (hplace : disk.get? place ≠ some .directory) (entry : DiskEntry)
    {pieces : List (List Char)} {start : Place} (h : disk.walk start pieces = .ok finish) :
    (disk.put place entry).walk start pieces = .ok finish := by
  induction pieces generalizing start with
  | nil => exact h
  | cons piece pieces ih =>
      rw [walk, List.foldlM_cons] at h
      obtain ⟨mid, hstep, hrest⟩ := exists_of_bind_eq_ok h
      have hne : start ≠ place := by
        rintro rfl
        exact hplace (get?_of_step hstep)
      rw [walk, List.foldlM_cons, step_congr (disk.get?_put_of_ne hne entry), hstep]
      exact ih hrest

theorem exists_of_locateNew? (h : disk.locateNew? path = .ok (some place)) :
    ∃ (start holder : Place) (name : List Char), begin path = .ok start ∧
      path.pieces = path.pieces.dropLast ++ [name] ∧
      disk.walk start path.pieces.dropLast = .ok holder ∧
      disk.step holder name = .ok place ∧ place.names ≠ [] := by
  obtain ⟨start, hstart, h⟩ := exists_of_bind_eq_ok h
  split at h
  · cases h
  · rename_i name hlast
    obtain ⟨holder, hwalk, h⟩ := exists_of_bind_eq_ok h
    rw [walk, List.foldlM_append] at hwalk
    obtain ⟨mid, hmid, hhere⟩ := exists_of_bind_eq_ok hwalk
    split at h
    · cases h
    · rename_i hname
      obtain ⟨target, hstep, h⟩ := exists_of_bind_eq_ok h
      obtain rfl := Option.some.inj (Except.ok.inj h)
      obtain rfl : holder = mid := by
        obtain ⟨_, hone, hnil⟩ := exists_of_bind_eq_ok hhere
        cases hnil
        exact eq_of_step_here hone
      have hpieces := List.dropLast_append_getLast? name hlast
      exact ⟨start, holder, name, hstart, hpieces.symm, hmid, hstep, names_of_step hname hstep⟩

/-! ## Files -/

theorem writeBytes_eq_ok {bytes : ByteArray} (h : disk.writeBytes path bytes = .ok next) :
    ∃ place, disk.locateNew? path = .ok (some place) ∧ path.endsInSlash = false ∧
      disk.get? place ≠ some .directory ∧ next = disk.put place (.file bytes) := by
  obtain ⟨place?, hlocate, h⟩ := exists_of_bind_eq_ok h
  cases place? with
  | none => cases h
  | some place =>
      simp only at h
      split at h
      · cases h
      · rename_i hslash
        split at h
        · cases h
        · rename_i hdirectory
          exact ⟨place, hlocate, by simpa using hslash, hdirectory, (Except.ok.inj h).symm⟩

theorem find_writeBytes {bytes : ByteArray} (h : disk.writeBytes path bytes = .ok next) :
    next.find path = .ok (.file bytes) := by
  obtain ⟨place, hlocate, hslash, hdirectory, rfl⟩ := writeBytes_eq_ok h
  obtain ⟨start, holder, name, hstart, hpieces, hwalk, hstep, hnames⟩ :=
    exists_of_locateNew? hlocate
  have hne : holder ≠ place := by
    rintro rfl
    exact hdirectory (get?_of_step hstep)
  have hway := walk_put hdirectory (.file bytes) hwalk
  have hlast : (disk.put place (.file bytes)).step holder name = .ok place :=
    (step_congr (disk.get?_put_of_ne hne _)).trans hstep
  have hlocated : (disk.put place (.file bytes)).locate path = .ok place := by
    rw [locate, bind_of_eq_ok hstart, hslash, hpieces]
    simp only [Bool.false_eq_true, if_false, List.append_nil, walk, List.foldlM_append]
    rw [walk] at hway
    rw [bind_of_eq_ok hway]
    exact bind_of_eq_ok hlast pure
  rw [find, bind_of_eq_ok hlocated, disk.get?_put_self hnames]

theorem fromUTF8?_toUTF8 (text : String) : String.fromUTF8? text.toUTF8 = some text :=
  dif_pos text.isValidUTF8

theorem read_write {text : String} (h : disk.write path text = .ok next) :
    next.read path = .ok text := by
  rw [read, bind_of_eq_ok (find_writeBytes h)]
  simp only [fromUTF8?_toUTF8]

theorem has_write {text : String} (h : disk.write path text = .ok next) : next.has path = true := by
  rw [has, find_writeBytes h]

end StageAtlas.Disk
