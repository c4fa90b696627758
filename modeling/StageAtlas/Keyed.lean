/-!
# Entries by key

Entries whose keys may repeat stand for fewer: each key once, at its first place and with its last
value.
-/

namespace StageAtlas

/-- Where the keys differ, a look-up finds whatever entry there is. -/
theorem lookup_eq_some_iff_of_nodup {κ α : Type} [DecidableEq κ] {fields : List (κ × α)}
    (h : (fields.map Prod.fst).Nodup) (key : κ) (a : α) :
    fields.lookup key = some a ↔ (key, a) ∈ fields := by
  induction fields with
  | nil => simp
  | cons field rest ih =>
      obtain ⟨k, b⟩ := field
      obtain ⟨hfresh, hrest⟩ := List.nodup_cons.1 h
      by_cases hkey : key = k
      · subst hkey
        have habsent : (key, a) ∉ rest := fun hmem => hfresh (List.mem_map.2 ⟨_, hmem, rfl⟩)
        simp [habsent, eq_comm]
      · have hne : (key == k) = false := beq_eq_false_iff_ne.2 hkey
        simpa [List.lookup_cons, hne, hkey] using ih hrest

namespace Keyed

variable {κ α β : Type} [DecidableEq κ]

theorem lookup_map (f : α → β) (fields : List (κ × α)) (key : κ) :
    (fields.map fun field => (field.1, f field.2)).lookup key = (fields.lookup key).map f := by
  induction fields with
  | nil => rfl
  | cons field rest ih =>
      rw [List.map_cons, List.lookup_cons, List.lookup_cons, ih]
      split <;> rfl

/-- Gives a key its value: in its place if it has one, at the end otherwise. -/
def put : List (κ × α) → κ → α → List (κ × α)
  | [], key, value => [(key, value)]
  | (k, v) :: rest, key, value =>
      if k = key then (k, value) :: rest else (k, v) :: put rest key value

theorem lookup_put (fields : List (κ × α)) (key sought : κ) (value : α) :
    (put fields key value).lookup sought =
      if sought = key then some value else fields.lookup sought := by
  induction fields with
  | nil =>
      simp only [put, List.lookup_cons, List.lookup_nil]
      split <;> simp_all
  | cons field rest ih =>
      obtain ⟨k, v⟩ := field
      simp only [put]
      split
      · rename_i heq
        subst heq
        simp only [List.lookup_cons]
        split <;> simp_all
      · simp only [List.lookup_cons, ih]
        split
        · rename_i heq
          have hne : sought ≠ key := by
            rintro rfl
            simp_all
          rw [if_neg hne]
        · rfl

theorem lookup_filter {p : κ → Bool} {key : κ} (h : p key = true) (fields : List (κ × α)) :
    (fields.filter fun field => p field.1).lookup key = fields.lookup key := by
  induction fields with
  | nil => rfl
  | cons field rest ih =>
      obtain ⟨k, a⟩ := field
      by_cases hkey : key = k
      · subst hkey
        simp [h]
      · have hne : (key == k) = false := beq_eq_false_iff_ne.2 hkey
        rw [List.filter_cons]
        split <;> simp [List.lookup_cons, hne, ih]

/-! ## Entries left out -/

def without (gone : κ → Bool) (fields : List (κ × α)) : List (κ × α) :=
  fields.filter fun field => !gone field.1

variable {gone : κ → Bool} {key : κ}

theorem lookup_without (h : gone key = false) (fields : List (κ × α)) :
    (without gone fields).lookup key = fields.lookup key :=
  lookup_filter (p := fun key => !gone key) (by simp [h]) fields

theorem without_put (h : gone key = false) (fields : List (κ × α)) (value : α) :
    without gone (put fields key value) = put (without gone fields) key value := by
  induction fields with
  | nil => simp [put, without, h]
  | cons field rest ih =>
      obtain ⟨k, v⟩ := field
      by_cases hkey : k = key
      · subst hkey
        simp [put, without, h]
      · by_cases hk : gone k = true <;> simp_all [put, without]

theorem without_put_of_gone (h : gone key = true) (fields : List (κ × α)) (value : α) :
    without gone (put fields key value) = without gone fields := by
  induction fields with
  | nil => simp [put, without, h]
  | cons field rest ih =>
      obtain ⟨k, v⟩ := field
      by_cases hkey : k = key
      · subst hkey
        simp [put, without, h]
      · by_cases hk : gone k = true <;> simp_all [put, without]

omit [DecidableEq κ] in
theorem without_eq_self (h : ∀ key, gone key = false) : without gone = (id : List (κ × α) → _) :=
  funext fun fields => List.filter_eq_self.2 fun field _ => by simp [h]

/-! ## Entries whose keys repeat -/

/-- Each key once, at the place of its first member and with the value of its last. -/
def collapse (members : List (κ × α)) : List (κ × α) :=
  members.foldl (fun fields member => put fields member.1 member.2) []

@[simp] theorem collapse_nil : collapse ([] : List (κ × α)) = [] := rfl

theorem keys_put (fields : List (κ × α)) (key : κ) (value : α) :
    (put fields key value).map Prod.fst =
      if key ∈ fields.map Prod.fst then fields.map Prod.fst else fields.map Prod.fst ++ [key] := by
  induction fields with
  | nil => simp [put]
  | cons field rest ih =>
      obtain ⟨k, v⟩ := field
      by_cases h : k = key
      · simp [put, h]
      · have h' : key ≠ k := fun e => h e.symm
        simp only [put, h, if_false, List.map_cons, ih, List.mem_cons, h', false_or]
        split <;> simp

theorem nodup_keys_put {fields : List (κ × α)} (h : (fields.map Prod.fst).Nodup)
    (key : κ) (value : α) : ((put fields key value).map Prod.fst).Nodup := by
  rw [keys_put]
  split
  · exact h
  · rename_i hk
    refine List.nodup_append.2 ⟨h, by simp, ?_⟩
    intro a ha b hb e
    simp only [List.mem_singleton] at hb
    exact hk (hb ▸ e ▸ ha)

theorem nodup_keys_collapse (members : List (κ × α)) :
    ((collapse members).map Prod.fst).Nodup := by
  suffices ∀ fields : List (κ × α), (fields.map Prod.fst).Nodup →
      ((members.foldl (fun fields member => put fields member.1 member.2) fields).map
        Prod.fst).Nodup from this [] (by simp)
  induction members with
  | nil => exact fun _ h => h
  | cons member rest ih => exact fun fields h => ih _ (nodup_keys_put h _ _)

theorem put_of_not_mem {fields : List (κ × α)} {key : κ} (h : key ∉ fields.map Prod.fst)
    (value : α) : put fields key value = fields ++ [(key, value)] := by
  induction fields with
  | nil => rfl
  | cons field rest ih =>
      simp only [List.map_cons, List.mem_cons, not_or] at h
      simp [put, Ne.symm h.1, ih h.2]

theorem collapse_of_nodup {members : List (κ × α)} (h : (members.map Prod.fst).Nodup) :
    collapse members = members := by
  suffices ∀ fields : List (κ × α), ((fields ++ members).map Prod.fst).Nodup →
      members.foldl (fun fields member => put fields member.1 member.2) fields =
        fields ++ members from this [] h
  clear h
  induction members with
  | nil => simp
  | cons member rest ih =>
      intro fields hnodup
      have hnew : member.1 ∉ fields.map Prod.fst := by
        simp only [List.map_append, List.map_cons, List.nodup_append] at hnodup
        exact fun hmem => hnodup.2.2 _ hmem _ List.mem_cons_self rfl
      rw [List.foldl_cons, put_of_not_mem hnew, ih _ (by simpa using hnodup)]
      simp

end Keyed

end StageAtlas
