import StageAtlas.Proofs.Session.Counts

/-! # The cards of a stage

A stage refers to tables by name, and some names may be of no table. The cards are those references
that the registry of the document has, in their order and as often as they are made, each with what
stands under its own name.
-/

namespace StageAtlas

namespace Json

/-- The texts in the array of a field. A field that holds anything else has none. -/
def texts (v : Json) (key : String) : List String :=
  match v.field? key with
  | some (.arr items) => items.map label
  | _ => []

/-- The card that a value in the registry gives under a name. What is not as it should be is left
out, and costs nothing else. -/
def tableCard (value : Json) (name : String) : TableCard where
  name
  keys := value.texts "keys"
  actions := value.texts "actions"
  size :=
    match value.field? "size" with
    | some (.num n) => n.natural?.map UInt64.ofNat
    | _ => none

theorem labelsField_eq_texts (v : Json) (key : String) : v.labelsField key = v.texts key := by
  unfold labelsField itemsField? texts
  cases v.field? key with
  | none => rfl
  | some value => cases value <;> rfl

theorem tableCard_eq (value : Json) (name : String) :
    value.tableCard name = ⟨name, (Table.decode value).keys, (Table.decode value).actions,
      (Table.decode value).size⟩ := by
  unfold tableCard Table.decode
  rw [labelsField_eq_texts, labelsField_eq_texts]
  cases value.field? "size" with
  | none => rfl
  | some size => cases size <;> rfl

end Json

namespace Registries

/-- The cards for some references to the tables of a document. -/
def cardsOf (v : Json) (references : List String) : List TableCard :=
  references.filterMap fun reference =>
    (tableValue? v reference).map fun value => value.tableCard reference

theorem tableValue?_eq_none_iff (v : Json) (name : String) :
    tableValue? v name = none ↔ name ∉ (tableFields v).map Prod.fst := by
  rw [← tableValue?_isSome_iff, Option.not_isSome_iff_eq_none]

theorem map_name_cardsOf (v : Json) (references : List String) :
    (cardsOf v references).map (·.name) =
      references.filter fun reference => reference ∈ (tableFields v).map Prod.fst := by
  induction references with
  | nil => rfl
  | cons reference rest ih =>
      rw [cardsOf, List.filterMap_cons, List.filter_cons]
      by_cases hreference : reference ∈ (tableFields v).map Prod.fst
      · obtain ⟨value, hvalue⟩ :=
          Option.isSome_iff_exists.1 ((tableValue?_isSome_iff v reference).2 hreference)
        rw [hvalue, if_pos (decide_eq_true hreference)]
        exact congrArg (reference :: ·) ih
      · rw [(tableValue?_eq_none_iff v reference).2 hreference, if_neg (by simpa using hreference)]
        exact ih

theorem exists_value_of_mem_cardsOf {v : Json} {references : List String} {card : TableCard}
    (h : card ∈ cardsOf v references) :
    ∃ value, (card.name, value) ∈ tableFields v ∧ card = value.tableCard card.name := by
  obtain ⟨reference, _, hcard⟩ := List.mem_filterMap.1 h
  obtain ⟨value, hvalue, rfl⟩ := Option.map_eq_some_iff.1 hcard
  have hmem := (lookup_eq_some_iff_of_nodup (nodup_keys_tableFields v) reference value).1 hvalue
  exact ⟨value, hmem, rfl⟩

theorem cardsOf_of_missing {v : Json} {missing : String}
    (h : missing ∉ (tableFields v).map Prod.fst) (before after : List String) :
    cardsOf v (before ++ missing :: after) = cardsOf v (before ++ after) := by
  simp [cardsOf, (tableValue?_eq_none_iff v missing).2 h]

/-- Only the values under the references matter. -/
theorem cardsOf_congr {v w : Json} {references : List String}
    (h : ∀ reference ∈ references, tableValue? v reference = tableValue? w reference) :
    cardsOf v references = cardsOf w references := by
  apply List.filterMap_congr
  intro reference hreference
  rw [h reference hreference]

end Registries

theorem Stage.tableCards_decode (v : Json) (name : String) (entry : Json) :
    (decode name entry).tableCards (Registries.decode v) =
      Registries.cardsOf v (entry.texts "tables") := by
  have htables : (decode name entry).tables = entry.texts "tables" := by
    rw [decode_eq, Json.labelsField_eq_texts]
  rw [tableCards, htables, Registries.resolve, List.map_filterMap, Registries.cardsOf]
  apply List.filterMap_congr
  intro reference _
  rw [Registries.table?_decode]
  cases Registries.tableValue? v reference with
  | none => rfl
  | some value => exact congrArg some (value.tableCard_eq reference).symm

namespace Session

variable {v entry : Json} {name : String}

theorem detail?_visit_tables (hname : name.toList.head? ≠ some '_') (h : v.field? name = some entry)
    (session : Session) (actions : List ExplorerAction) :
    ((session.explore (Program.decode v) actions).visit ⟨name⟩ .tables).detail? =
      some (.tables (Registries.cardsOf v (entry.texts "tables"))) := by
  rw [detail?_visit_of_field? session actions hname h, Stage.detail, Stage.tableCards_decode]

/-- A stage shows a card for each of its references that the registry has, in their order and as
often as they are made, and each card is made of the value under its own name. A reference that the
registry lacks could as well not be there, and what nobody refers to could be anything. -/
theorem table_cards_of_references (hname : name.toList.head? ≠ some '_')
    (h : v.field? name = some entry) (session : Session) (actions : List ExplorerAction) :
    ∃ cards,
      ((session.explore (Program.decode v) actions).visit ⟨name⟩ .tables).detail? =
        some (.tables cards) ∧
      cards.map (·.name) =
        (entry.texts "tables").filter (fun reference =>
          reference ∈ (Registries.tableFields v).map Prod.fst) ∧
      (∀ card ∈ cards, ∃ value,
        (card.name, value) ∈ Registries.tableFields v ∧ card = value.tableCard card.name) ∧
      ∀ w other before missing after, w.field? name = some other →
        entry.texts "tables" = before ++ missing :: after →
        missing ∉ (Registries.tableFields v).map Prod.fst →
        other.texts "tables" = before ++ after →
        (∀ reference ∈ before ++ after,
          Registries.tableValue? v reference = Registries.tableValue? w reference) →
        ∀ (second : Session) (requests : List ExplorerAction),
          ((second.explore (Program.decode w) requests).visit ⟨name⟩ .tables).detail? =
            some (.tables cards) := by
  refine ⟨_, detail?_visit_tables hname h session actions, Registries.map_name_cardsOf v _,
    fun card => Registries.exists_value_of_mem_cardsOf, ?_⟩
  intro w other before missing after hother hreferences hmissing hothers hvalues second requests
  rw [hreferences, Registries.cardsOf_of_missing hmissing, Registries.cardsOf_congr hvalues,
    ← hothers]
  exact detail?_visit_tables hname hother second requests

/-- A table is referred to twice, one by no string and one that is not there; the registry has a
broken size and a table too many. -/
theorem table_cards_of_references_mixed :
    let entry : Json := .obj [("tables", .arr [.str "acl", .str "gone", .null, .str "acl"])]
    let other : Json := .obj [("tables", .arr [.str "acl", .null, .str "acl"])]
    let acl : Json := .obj [("size", .str "many"), ("keys", .arr [.str "port", .bool true])]
    let v : Json := .obj [("_tables", .obj [("null", .arr []), ("route", .null), ("acl", acl)]),
      ("filter", entry)]
    let w : Json := .obj [("filter", other), ("_tables", .obj [("acl", acl), ("null", .arr [])])]
    let cards : List TableCard := [⟨"acl", ["port", "true"], [], none⟩, ⟨"null", [], [], none⟩,
      ⟨"acl", ["port", "true"], [], none⟩]
    ("filter".toList.head? ≠ some '_' ∧ v.field? "filter" = some entry ∧
        w.field? "filter" = some other) ∧
      ((fresh.explore (Program.decode v) []).visit ⟨"filter"⟩ .tables).detail? =
        some (.tables cards) ∧
      cards.map (·.name) = (entry.texts "tables").filter (· ≠ "gone") ∧
      ((fresh.explore (Program.decode w) []).visit ⟨"filter"⟩ .tables).detail? =
        some (.tables cards) := by
  intro entry other acl v w cards
  have hname : "filter".toList.head? ≠ some '_' := by decide
  have hv : v.field? "filter" = some entry := rfl
  have hw : w.field? "filter" = some other := rfl
  obtain ⟨shown, hshown, _, _, hothers⟩ := table_cards_of_references hname hv fresh []
  have hcards : shown = cards := by
    have hview := (detail?_visit_tables hname hv fresh []).symm.trans hshown
    have hevaluated : Registries.cardsOf v (entry.texts "tables") = cards := by decide
    rw [hevaluated] at hview
    exact (DetailView.tables.inj (Option.some.inj hview)).symm
  subst hcards
  have hvalues : ∀ reference ∈ ["acl"] ++ ["null", "acl"],
      Registries.tableValue? v reference = Registries.tableValue? w reference := by
    simp only [List.cons_append, List.nil_append, List.forall_mem_cons]
    exact ⟨rfl, rfl, rfl, by simp⟩
  refine ⟨⟨hname, hv, hw⟩, hshown, by decide, ?_⟩
  exact hothers w other ["acl"] "gone" ["null", "acl"] hw (by decide) (by decide) (by decide)
    hvalues fresh []

end Session

end StageAtlas
