/-!
# Registries by name

A registry holds one entry for each name, in the order of the names.
-/

namespace StageAtlas

structure Registry (α : Type) where
  entries : List (String × α)
  sorted : entries.Pairwise fun a b => a.1 < b.1

namespace Registry

variable {α : Type}

instance [DecidableEq α] : DecidableEq (Registry α) := fun a b =>
  if h : a.entries = b.entries then
    isTrue (by cases a; cases b; simp_all)
  else isFalse fun e => h (congrArg entries e)

theorem eq_of_entries {a b : Registry α} (h : a.entries = b.entries) : a = b := by
  cases a; cases b; simp_all

/-- The entries with one more, in its place; an entry of that name gives way. -/
def insertEntry (entry : String × α) : List (String × α) → List (String × α)
  | [] => [entry]
  | head :: rest =>
      if entry.1 < head.1 then entry :: head :: rest
      else if head.1 < entry.1 then head :: insertEntry entry rest
      else entry :: rest

theorem mem_insertEntry {entry other : String × α} {entries : List (String × α)}
    (h : other ∈ insertEntry entry entries) : other = entry ∨ other ∈ entries := by
  induction entries with
  | nil => simpa [insertEntry] using h
  | cons head rest ih =>
      simp only [insertEntry] at h
      split at h
      · simpa using h
      · split at h
        · rcases List.mem_cons.1 h with rfl | h
          · simp
          · rcases ih h with rfl | h <;> simp [*]
        · rcases List.mem_cons.1 h with rfl | h <;> simp [*]

theorem sorted_insertEntry (entry : String × α) {entries : List (String × α)}
    (h : entries.Pairwise fun a b => a.1 < b.1) :
    (insertEntry entry entries).Pairwise fun a b => a.1 < b.1 := by
  induction entries with
  | nil => simp [insertEntry]
  | cons head rest ih =>
      obtain ⟨hhead, hrest⟩ := List.pairwise_cons.1 h
      simp only [insertEntry]
      split
      · rename_i hlt
        refine List.pairwise_cons.2 ⟨fun other hother => ?_, h⟩
        rcases List.mem_cons.1 hother with rfl | hother
        · exact hlt
        · exact String.lt_trans hlt (hhead other hother)
      · split
        · rename_i hlt
          refine List.pairwise_cons.2 ⟨fun other hother => ?_, ih hrest⟩
          rcases mem_insertEntry hother with rfl | hother
          · exact hlt
          · exact hhead other hother
        · rename_i hge hle
          have heq : entry.1 = head.1 := by
            apply String.le_antisymm
            · exact String.not_lt.1 hle
            · exact String.not_lt.1 hge
          exact List.pairwise_cons.2 ⟨fun other hother => heq ▸ hhead other hother, hrest⟩

def empty : Registry α := ⟨[], List.Pairwise.nil⟩

instance : Inhabited (Registry α) := ⟨empty⟩

def insert (registry : Registry α) (name : String) (value : α) : Registry α :=
  ⟨insertEntry (name, value) registry.entries, sorted_insertEntry _ registry.sorted⟩

/-- The registry of the entries; the last one of a name counts. -/
def ofList (entries : List (String × α)) : Registry α :=
  entries.foldl (fun registry entry => registry.insert entry.1 entry.2) empty

def get? (registry : Registry α) (name : String) : Option α := registry.entries.lookup name

def size (registry : Registry α) : Nat := registry.entries.length

@[simp] theorem entries_empty : (empty : Registry α).entries = [] := rfl

@[simp] theorem ofList_nil : ofList ([] : List (String × α)) = empty := rfl

theorem insertEntry_of_forall_lt {entry : String × α} {entries : List (String × α)}
    (h : ∀ other ∈ entries, other.1 < entry.1) :
    insertEntry entry entries = entries ++ [entry] := by
  induction entries with
  | nil => rfl
  | cons head rest ih =>
      have hhead : head.1 < entry.1 := h head List.mem_cons_self
      have hrest : ∀ other ∈ rest, other.1 < entry.1 :=
        fun other hother => h other (List.mem_cons_of_mem head hother)
      simp [insertEntry, String.lt_asymm hhead, hhead, ih hrest]

/-- Entries that are sorted already are those of their registry. -/
theorem entries_ofList_of_sorted {entries : List (String × α)}
    (h : entries.Pairwise fun a b => a.1 < b.1) : (ofList entries).entries = entries := by
  suffices ∀ registry : Registry α,
      (registry.entries ++ entries).Pairwise (fun a b => a.1 < b.1) →
      (entries.foldl (fun registry entry => registry.insert entry.1 entry.2) registry).entries =
        registry.entries ++ entries from this empty h
  clear h
  induction entries with
  | nil => simp
  | cons entry rest ih =>
      intro registry hsorted
      have hlt : ∀ other ∈ registry.entries, other.1 < entry.1 := fun other hother =>
        (List.pairwise_append.1 hsorted).2.2 other hother entry List.mem_cons_self
      have hinsert : (registry.insert entry.1 entry.2).entries = registry.entries ++ [entry] :=
        insertEntry_of_forall_lt hlt
      rw [List.foldl_cons, ih _ (by rw [hinsert]; simpa using hsorted), hinsert]
      simp

theorem ofList_entries (registry : Registry α) : ofList registry.entries = registry :=
  eq_of_entries (entries_ofList_of_sorted registry.sorted)

theorem nodup_names (registry : Registry α) : (registry.entries.map Prod.fst).Nodup := by
  rw [List.Nodup, List.pairwise_map]
  apply registry.sorted.imp
  intro a b hlt heq
  rw [heq] at hlt
  exact String.lt_irrefl _ hlt

end Registry

end StageAtlas
