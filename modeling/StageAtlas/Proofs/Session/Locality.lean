import StageAtlas.Proofs.Session.Lookups

/-! # What a view depends on

Two documents that have one entry in common may differ in everything else. Their sessions show the
same of this stage, as far as the registries agree on what the stage refers to: its actions and its
flow in any case, its deep dive if headers and externs agree, and its tables if the entries of these
tables do.
-/

namespace StageAtlas

namespace Stage

theorem deepDive_congr (stage : Stage) {registries others : Registries}
    (hheaders : registries.headers = others.headers)
    (hexterns : registries.externs = others.externs) :
    stage.deepDive registries = stage.deepDive others := by
  rw [deepDive, deepDive, hheaders, hexterns]

theorem tableCards_congr (stage : Stage) {registries others : Registries}
    (h : ∀ reference ∈ stage.tables, registries.table? reference = others.table? reference) :
    stage.tableCards registries = stage.tableCards others := by
  have hresolve : registries.resolve stage.tables = others.resolve stage.tables := by
    apply List.filterMap_congr
    intro reference hreference
    rw [h reference hreference]
  rw [tableCards, tableCards, hresolve]

end Stage

namespace Registries

theorem headers_decode_congr {v w : Json} (h : v.field? "_headers" = w.field? "_headers") :
    (decode v).headers = (decode w).headers := by
  simp [decode, h]

theorem externs_decode_congr {v w : Json} (h : v.field? "_externs" = w.field? "_externs") :
    (decode v).externs = (decode w).externs := by
  simp [decode, h]

end Registries

/-- Two sessions show something of a stage under a tab, and it is the same. -/
def Session.ShowSame (first second : Session) (id : StageId) (tab : DetailTab) : Prop :=
  ∃ view, (first.visit id tab).detail? = some view ∧ (second.visit id tab).detail? = some view

section SameStage

variable {p q : Program} {name : String} {stage : Stage}
  (hp : (p.stages.map Stage.name).Nodup) (hq : (q.stages.map Stage.name).Nodup)
  (hpstage : p.stage? name = some stage) (hqstage : q.stage? name = some stage)

include hp hq hpstage hqstage

/-- Two programs with a stage in common describe it alike, but for its place. -/
theorem Program.exists_descriptors_of_same_stage :
    ∃ descriptor other, p.descriptors.filter (·.id = ⟨name⟩) = [descriptor] ∧
      q.descriptors.filter (·.id = ⟨name⟩) = [other] ∧
      { descriptor with orderIndex := other.orderIndex } = other := by
  obtain ⟨index, hpshows⟩ := exists_shows hp hpstage
  obtain ⟨place, hqshows⟩ := exists_shows hq hqstage
  obtain rfl := name_of_stage?_eq_some hpstage
  exact ⟨_, _, hpshows.descriptor_alone, hqshows.descriptor_alone, rfl⟩

theorem Session.showSame_of_detail_eq (first second : Session)
    (before after : List ExplorerAction) {tab : DetailTab}
    (hdetail : stage.detail p.registries tab = stage.detail q.registries tab) :
    ShowSame (first.explore p before) (second.explore q after) ⟨name⟩ tab := by
  refine ⟨_, detail?_visit first before hp hpstage tab, ?_⟩
  rw [hdetail]
  exact detail?_visit second after hq hqstage tab

end SameStage

namespace Session

/-- A stage is shown by its own entry and by what it refers to, whatever else the document holds and
however the two sessions have been used. -/
theorem showSame_of_same_entry {v w entry : Json} {name : String}
    (hname : name.toList.head? ≠ some '_') (hv : v.field? name = some entry)
    (hw : w.field? name = some entry) (first second : Session)
    (before after : List ExplorerAction) :
    let here := first.explore (Program.decode v) before
    let there := second.explore (Program.decode w) after
    ∃ stage, (Program.decode v).stage? name = some stage ∧
      (Program.decode w).stage? name = some stage ∧
      (∃ descriptor other,
        (Program.decode v).descriptors.filter (·.id = ⟨name⟩) = [descriptor] ∧
        (Program.decode w).descriptors.filter (·.id = ⟨name⟩) = [other] ∧
        { descriptor with orderIndex := other.orderIndex } = other) ∧
      ShowSame here there ⟨name⟩ .actions ∧
      ShowSame here there ⟨name⟩ .flow ∧
      (v.field? "_headers" = w.field? "_headers" → v.field? "_externs" = w.field? "_externs" →
        ShowSame here there ⟨name⟩ .deepDive) ∧
      ((∀ reference ∈ stage.tables,
          Registries.tableValue? v reference = Registries.tableValue? w reference) →
        ShowSame here there ⟨name⟩ .tables) := by
  intro here there
  have hreserved : isReserved name = false := by simpa [isReserved] using hname
  have hnodupv := Program.nodup_names_decode v
  have hnodupw := Program.nodup_names_decode w
  have hstagev := Program.stage?_decode_of_field? hreserved hv
  have hstagew := Program.stage?_decode_of_field? hreserved hw
  have hsame : ∀ tab, (Stage.decode name entry).detail (Program.decode v).registries tab =
      (Stage.decode name entry).detail (Program.decode w).registries tab →
        ShowSame here there ⟨name⟩ tab := fun tab hdetail =>
    showSame_of_detail_eq hnodupv hnodupw hstagev hstagew first second before after hdetail
  refine ⟨Stage.decode name entry, hstagev, hstagew,
    Program.exists_descriptors_of_same_stage hnodupv hnodupw hstagev hstagew,
    hsame .actions rfl, hsame .flow rfl,
    fun hheaders hexterns => hsame .deepDive ?_, fun htables => hsame .tables ?_⟩
  · have hdive := (Stage.decode name entry).deepDive_congr
      (Registries.headers_decode_congr hheaders) (Registries.externs_decode_congr hexterns)
    exact congrArg DetailView.deepDive hdive
  · -- A table is decoded from its own value, so equal values make equal tables.
    have hlookup : ∀ reference ∈ (Stage.decode name entry).tables,
        (Registries.decode v).table? reference = (Registries.decode w).table? reference := by
      intro reference hreference
      rw [Registries.table?_decode, Registries.table?_decode, htables reference hreference]
    have hcards := (Stage.decode name entry).tableCards_congr hlookup
    exact congrArg DetailView.tables hcards

/-- Two documents share a control; one has a broken neighbour and a table that nobody asks for. -/
theorem showSame_of_same_entry_beside_broken :
    let entry : Json := .obj [("type", .str "control"), ("tables", .arr [.str "acl", .str "gone"])]
    let acl : Json := .obj [("keys", .arr [.str "port"])]
    let v : Json := .obj [("filter", entry), ("_tables", .obj [("acl", acl)])]
    let w : Json := .obj [("_tables", .obj [("route", .null), ("acl", acl)]), ("broken", .arr []),
      ("filter", entry)]
    let here := fresh.explore (Program.decode v) []
    let there := fresh.explore (Program.decode w) [.setMode .overview]
    ("filter".toList.head? ≠ some '_' ∧ v.field? "filter" = some entry ∧
        w.field? "filter" = some entry) ∧
      ShowSame here there ⟨"filter"⟩ .actions ∧ ShowSame here there ⟨"filter"⟩ .deepDive ∧
      ShowSame here there ⟨"filter"⟩ .tables := by
  intro entry acl v w here there
  have hname : "filter".toList.head? ≠ some '_' := by decide
  have hv : v.field? "filter" = some entry := rfl
  have hw : w.field? "filter" = some entry := rfl
  obtain ⟨stage, hstage, _, _, hactions, _, hdive, htables⟩ :=
    showSame_of_same_entry hname hv hw fresh fresh [] [.setMode .overview]
  have hreferences : stage.tables = ["acl", "gone"] := by
    have hdecoded : (Program.decode v).stage? "filter" =
        some ⟨"filter", .control, ["acl", "gone"], none, none, none⟩ := by decide
    rw [hdecoded] at hstage
    exact Option.some.inj hstage ▸ rfl
  refine ⟨⟨hname, hv, hw⟩, hactions, hdive rfl rfl, htables ?_⟩
  rw [hreferences]
  simp only [List.forall_mem_cons]
  exact ⟨rfl, rfl, by simp⟩

end Session

end StageAtlas
