import StageAtlas.Pipeline.References
import StageAtlas.Program.Decode

/-! # What one key of a document gives

A stage is decoded from the value of its own key and a table from the value of its own name in the
registry. Where a key stands, and what stands under the others, has no part in it.
-/

namespace StageAtlas

namespace Json

theorem field?_isSome_iff (v : Json) (key : String) :
    (v.field? key).isSome ↔ key ∈ v.fields.map Prod.fst := by
  simp [field?, List.lookup_isSome_iff]

end Json

theorem isReserved_eq_false_iff (key : String) :
    isReserved key = false ↔ key.toList.head? ≠ some '_' := by
  simp [isReserved]

/-! ## Registries -/

namespace Registry

variable {α : Type}

theorem perm_insertEntry {entry : String × α} {entries : List (String × α)}
    (h : entry.1 ∉ entries.map Prod.fst) : (insertEntry entry entries).Perm (entry :: entries) := by
  induction entries with
  | nil => exact List.Perm.refl _
  | cons head rest ih =>
      simp only [List.map_cons, List.mem_cons, not_or] at h
      simp only [insertEntry]
      split
      · exact List.Perm.refl _
      · rename_i hge
        split
        · exact ((ih h.2).cons head).trans (List.Perm.swap entry head rest)
        · rename_i hle
          have heq : entry.1 = head.1 :=
            String.le_antisymm (String.not_lt.1 hle) (String.not_lt.1 hge)
          exact (h.1 heq).elim

/-- Entries whose names differ all stay, each in its place. -/
theorem perm_entries_ofList {entries : List (String × α)} (h : (entries.map Prod.fst).Nodup) :
    (ofList entries).entries.Perm entries := by
  suffices ∀ registry : Registry α, ((registry.entries ++ entries).map Prod.fst).Nodup →
      (entries.foldl (fun registry entry => registry.insert entry.1 entry.2)
        registry).entries.Perm (registry.entries ++ entries) from this empty h
  clear h
  induction entries with
  | nil => intro registry _; simp
  | cons entry rest ih =>
      intro registry hnodup
      have hnew : entry.1 ∉ registry.entries.map Prod.fst := by
        simp only [List.map_append, List.map_cons, List.nodup_append] at hnodup
        exact fun hmem => hnodup.2.2 _ hmem _ List.mem_cons_self rfl
      have hinsert : ((registry.insert entry.1 entry.2).entries ++ rest).Perm
          (registry.entries ++ entry :: rest) :=
        ((perm_insertEntry hnew).append_right rest).trans List.perm_middle.symm
      exact (ih _ ((hinsert.map Prod.fst).nodup_iff.2 hnodup)).trans hinsert

theorem size_ofList {entries : List (String × α)} (h : (entries.map Prod.fst).Nodup) :
    (ofList entries).size = entries.length := (perm_entries_ofList h).length_eq

theorem get?_ofList {entries : List (String × α)} (h : (entries.map Prod.fst).Nodup)
    (name : String) : (ofList entries).get? name = entries.lookup name := by
  apply Option.ext
  intro a
  rw [get?, lookup_eq_some_iff_of_nodup (nodup_names _), lookup_eq_some_iff_of_nodup h,
    (perm_entries_ofList h).mem_iff]

end Registry

namespace Registries

/-- The members that a document has for its tables; none if they are missing or no object. -/
def tableFields (v : Json) : List (String × Json) := ((v.field? "_tables").map Json.fields).getD []

def tableValue? (v : Json) (name : String) : Option Json := (tableFields v).lookup name

theorem nodup_keys_tableFields (v : Json) : ((tableFields v).map Prod.fst).Nodup := by
  rw [tableFields]
  cases v.field? "_tables" with
  | none => exact List.nodup_nil
  | some tables => exact tables.nodup_keys_fields

theorem tableValue?_isSome_iff (v : Json) (name : String) :
    (tableValue? v name).isSome ↔ name ∈ (tableFields v).map Prod.fst := by
  simp [tableValue?, List.lookup_isSome_iff]

theorem tables_decode (v : Json) : (decode v).tables =
    .ofList ((tableFields v).map fun field => (field.1, Table.decode field.2)) := by
  rw [decode, tableFields]
  cases v.field? "_tables" <;> rfl

theorem nodup_names_tables (v : Json) :
    (((tableFields v).map fun field => (field.1, Table.decode field.2)).map Prod.fst).Nodup := by
  simpa [Function.comp_def] using nodup_keys_tableFields v

theorem table?_decode (v : Json) (name : String) :
    (decode v).table? name = (tableValue? v name).map Table.decode := by
  rw [table?, tables_decode, Registry.get?_ofList (nodup_names_tables v),
    Keyed.lookup_map Table.decode, tableValue?]

theorem size_tables_decode (v : Json) : (decode v).tables.size = (tableFields v).length := by
  rw [tables_decode, Registry.size_ofList (nodup_names_tables v), List.length_map]

end Registries

/-! ## Stages -/

namespace Program

theorem find?_decode_filter (fields : List (String × Json)) (name : String) :
    ((fields.filter fun field => !isReserved field.1).map fun field =>
        Stage.decode field.1 field.2).find? (fun stage => stage.name = name) =
      if isReserved name then none else (fields.lookup name).map (Stage.decode name) := by
  induction fields with
  | nil => simp
  | cons field rest ih =>
      obtain ⟨key, value⟩ := field
      by_cases hname : key = name
      · subst hname
        by_cases hreserved : isReserved key
        · simpa [hreserved] using ih
        · simp [hreserved]
      · have hne : (name == key) = false := beq_eq_false_iff_ne.2 (Ne.symm hname)
        by_cases hreserved : isReserved key
        · simpa [hreserved, List.lookup_cons, hne] using ih
        · simpa [hreserved, List.lookup_cons, hne, hname] using ih

theorem stage?_decode (v : Json) (name : String) :
    (decode v).stage? name =
      if isReserved name then none else (v.field? name).map (Stage.decode name) :=
  find?_decode_filter v.fields name

theorem stage?_decode_of_field? {v entry : Json} {name : String} (hname : isReserved name = false)
    (h : v.field? name = some entry) :
    (decode v).stage? name = some (Stage.decode name entry) := by
  simp [stage?_decode, hname, h]

theorem stage?_decode_isSome_iff (v : Json) (name : String) :
    ((decode v).stage? name).isSome ↔
      name ∈ v.fields.map Prod.fst ∧ name.toList.head? ≠ some '_' := by
  rw [stage?_decode, ← Json.field?_isSome_iff, ← isReserved_eq_false_iff]
  cases isReserved name <;> simp

end Program

end StageAtlas
