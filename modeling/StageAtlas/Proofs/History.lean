import Mathlib.Data.List.DropRight

/-! # Histories

A history lists what happened, the earliest entry first. Of a state that each entry may set anew,
only the latest entry that sets it counts; what every step of a run keeps, the run keeps.
-/

namespace StageAtlas

theorem exists_of_bind_eq_ok {ε α β : Type} {x : Except ε α} {f : α → Except ε β} {b : β}
    (h : x >>= f = .ok b) : ∃ a, x = .ok a ∧ f a = .ok b := by
  cases x with
  | error e => cases h
  | ok a => exact ⟨a, rfl, h⟩

theorem bind_of_eq_ok {ε α β : Type} {x : Except ε α} {a : α} (h : x = .ok a)
    (f : α → Except ε β) : x >>= f = f a := by
  rw [h]
  rfl

namespace History

variable {α β : Type}

/-- What the latest entry that decides decided. -/
def latest? (decides : α → Option β) (history : List α) : Option β :=
  history.reverse.findSome? decides

/-- The entries behind the latest one that decides; all entries if none does. -/
def since (decides : α → Option β) (history : List α) : List α :=
  history.rtakeWhile fun entry => (decides entry).isNone

variable (decides : α → Option β)

@[simp] theorem latest?_nil : latest? decides [] = none := rfl

@[simp] theorem since_nil : since decides [] = [] := by simp [since]

theorem latest?_concat (history : List α) (entry : α) :
    latest? decides (history ++ [entry]) = (decides entry).or (latest? decides history) := by
  rw [latest?, List.reverse_append, List.findSome?_append]
  simp [latest?]

theorem latest?_eq_none_iff {history : List α} :
    latest? decides history = none ↔ ∀ entry ∈ history, decides entry = none := by
  simp [latest?]

theorem latest?_eq_some_iff {history : List α} {decision : β} :
    latest? decides history = some decision ↔ ∃ past entry later,
      history = past ++ entry :: later ∧ decides entry = some decision ∧
        ∀ other ∈ later, decides other = none := by
  rw [latest?, List.findSome?_eq_some_iff]
  constructor
  · rintro ⟨later, entry, past, hsplit, hentry, hlater⟩
    refine ⟨past.reverse, entry, later.reverse, ?_, hentry, by simpa using hlater⟩
    rw [← List.reverse_reverse history, hsplit]
    simp
  · rintro ⟨past, entry, later, rfl, hentry, hlater⟩
    exact ⟨later.reverse, entry, past.reverse, by simp, hentry, by simpa using hlater⟩

theorem getD_latest?_concat (start : β) (history : List α) (entry : α) :
    (latest? decides (history ++ [entry])).getD start =
      (decides entry).getD ((latest? decides history).getD start) := by
  rw [latest?_concat]
  cases decides entry <;> rfl

theorem since_concat (history : List α) (entry : α) :
    since decides (history ++ [entry]) =
      if (decides entry).isNone then since decides history ++ [entry] else [] :=
  List.rtakeWhile_concat _ _ _

/-- A run whose every step can be made keeps what each step keeps. What is kept may speak of the
steps made so far. -/
theorem invariant_of_foldlM {σ μ : Type} {step? : σ → μ → Option σ} {P : List μ → σ → Prop}
    (hstep : ∀ past state move next, P past state → step? state move = some next →
      P (past ++ [move]) next)
    (past : List μ) {moves : List μ} {state last : σ} (hstate : P past state)
    (hrun : moves.foldlM step? state = some last) : P (past ++ moves) last := by
  induction moves generalizing past state with
  | nil =>
      obtain rfl := Option.some.inj hrun
      rwa [List.append_nil]
  | cons move rest ih =>
      rw [List.foldlM_cons] at hrun
      obtain ⟨next, hnext, hrest⟩ := Option.bind_eq_some_iff.1 hrun
      have hlast := ih (past ++ [move]) (hstep past state move next hstate hnext) hrest
      rwa [List.append_assoc] at hlast

end History

end StageAtlas
