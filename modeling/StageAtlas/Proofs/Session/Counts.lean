import Mathlib.Algebra.Ring.Nat
import StageAtlas.Proofs.Session.Lookups

/-! # All counts agree

The counts of a stage are lengths of arrays in its entry, whoever counts: the descriptor, the node
of the graph and the four views. What is absent or no array counts as empty. The overview counts the
same again over all nodes.
-/

namespace StageAtlas

namespace Json

/-- The number of items of a field; a field that is no array has none. -/
def itemCount (v : Json) (key : String) : Nat := ((v.itemsField? key).getD []).length

def flowItems (entry : Json) : List Json :=
  ((entry.field? "apply_logic").bind fun block => block.itemsField? "logic").getD []

theorem field?_of_not_isObject {v : Json} (h : v.isObject = false) (key : String) :
    v.field? key = none := by
  cases v with
  | obj members => cases h
  | _ => rfl

end Json

open Json

/-! ## Counts of one stage -/

theorem FlowView.number_map {α : Type} (text : α → String) (list : List α) :
    number (list.map text) = list.mapIdx fun index a => ⟨index + 1, text a⟩ := by
  apply List.ext_getElem
  · simp [number]
  · intro index _ _
    simp [number]

namespace Stage

theorem decode_eq (name : String) (entry : Json) :
    decode name entry =
      { name
        kind := decodeKind entry
        tables := entry.labelsField "tables"
        actions := (entry.itemsField? "actions").map fun items => items.map ActionEntry.decode
        states := (entry.itemsField? "states").map fun items =>
          ParserState.decodeAll items (entry.itemsField? "extracts")
            (entry.itemsField? "transitions")
        applyBlock := ((entry.field? "apply_logic").filter isObject).map ApplyBlock.decode } := by
  unfold decode
  split
  · rfl
  · rename_i hobject
    have hnone := field?_of_not_isObject (Bool.eq_false_iff.2 hobject)
    simp [bare, decodeKind, stringField?, labelsField, itemsField?, hnone]

theorem stats_decode (name : String) (entry : Json) :
    (decode name entry).stats =
      ⟨entry.itemCount "tables", entry.itemCount "actions", entry.itemCount "states"⟩ := by
  have hactions : (decode name entry).actionList.length = entry.itemCount "actions" := by
    rw [decode_eq, actionList, itemCount]
    cases entry.itemsField? "actions" <;> simp
  have hstates : (decode name entry).stateList.length = entry.itemCount "states" := by
    rw [decode_eq, stateList, itemCount]
    cases entry.itemsField? "states" <;> simp [ParserState.decodeAll]
  have htables : (decode name entry).tables.length = entry.itemCount "tables" := by
    simp [decode_eq, labelsField, itemCount]
  rw [stats, htables, hactions, hstates]

theorem length_actionCards (stage : Stage) : stage.actionCards.length = stage.stats.actions := by
  simp [actionCards, stats]

theorem length_parserSteps (stage : Stage) :
    stage.parserSteps.length = if stage.kind = .parser then stage.stats.states else 0 := by
  unfold parserSteps
  split
  · rename_i hkind
    simp [hkind, stats]
  · rename_i hkind
    rw [if_neg hkind]
    rfl

/-- The flow of a block that is no object is that of a stage without a block. -/
theorem logic_decode (name : String) (entry : Json) :
    (decode name entry).applyBlock.bind (·.logic) =
      ((entry.field? "apply_logic").bind fun block => block.itemsField? "logic").map
        fun items => items.map label := by
  rw [decode_eq]
  cases entry.field? "apply_logic" with
  | none => rfl
  | some block =>
      cases hobject : block.isObject with
      | true => simp [hobject, Option.filter, ApplyBlock.decode]
      | false => simp [hobject, Option.filter, itemsField?, field?_of_not_isObject hobject]

/-- The steps of a flow are its items, numbered from one; without items there is no flow. -/
theorem flow_decode (name : String) (entry : Json) :
    (decode name entry).flow =
      if entry.flowItems = [] then .noExplicitFlow
      else .steps (entry.flowItems.mapIdx fun index item => ⟨index + 1, item.label⟩) := by
  rw [flow, logic_decode, flowItems]
  cases (entry.field? "apply_logic").bind fun block => block.itemsField? "logic" with
  | none => rfl
  | some items =>
      cases items with
      | nil => rfl
      | cons item rest => exact congrArg FlowView.steps (FlowView.number_map label (item :: rest))

theorem length_tableCards (stage : Stage) (registries : Registries) :
    (stage.tableCards registries).length ≤ stage.stats.tables ∧
      ((stage.tableCards registries).length = stage.stats.tables ↔
        ∀ reference ∈ stage.tables, (registries.table? reference).isSome) := by
  simp only [tableCards, Registries.resolve, List.length_map, stats]
  refine ⟨List.length_filterMap_le _ _, ?_⟩
  rw [List.filterMap_length_eq_length]
  simp

end Stage

/-! ## Counts of a program -/

namespace Program

theorem length_nodes (program : Program) :
    program.graph.nodes.length = program.descriptors.length := by
  simp [graph, PipelineGraph.build]

theorem overview_actions (program : Program) :
    program.overview.actions = (program.graph.nodes.map (·.badges.actions)).sum := by
  simp [overview, Overview.of, graph, PipelineGraph.build, StageDescriptor.node,
    List.sum_eq_foldl_nat, List.foldl_map]

theorem badges_of_mem_nodes {program : Program} {node : GraphNode}
    (h : node ∈ program.graph.nodes) :
    node.badges.headers = program.overview.headers ∧
      node.badges.externs = program.overview.externs := by
  simp only [graph, PipelineGraph.build, List.mem_map] at h
  obtain ⟨descriptor, _, rfl⟩ := h
  exact ⟨rfl, rfl⟩

end Program

namespace Session

/-- The counts of one stage, wherever they are shown. -/
structure Counts (session : Session) (v : Json) (name : String) (entry : Json)
    (descriptor : StageDescriptor) (node : GraphNode) : Prop where
  stats : descriptor.stats =
    ⟨entry.itemCount "tables", entry.itemCount "actions", entry.itemCount "states"⟩
  badges : node.badges.tables = descriptor.stats.tables ∧
    node.badges.actions = descriptor.stats.actions ∧ node.badges.states = descriptor.stats.states
  actions : ∃ cards, (session.visit ⟨name⟩ .actions).detail? = some (.actions cards) ∧
    cards.length = descriptor.stats.actions
  deepDive : ∃ dive, (session.visit ⟨name⟩ .deepDive).detail? = some (.deepDive dive) ∧
    dive.parserSteps.length = if descriptor.kind = .parser then descriptor.stats.states else 0
  flow : (session.visit ⟨name⟩ .flow).detail? = some (.flow
    (if entry.flowItems = [] then .noExplicitFlow
      else .steps (entry.flowItems.mapIdx fun index item => ⟨index + 1, item.label⟩)))
  tables : ∃ cards, (session.visit ⟨name⟩ .tables).detail? = some (.tables cards) ∧
    cards.length ≤ descriptor.stats.tables ∧
    (cards.length = descriptor.stats.tables ↔
      ∀ reference ∈ entry.labelsField "tables",
        reference ∈ (Registries.tableFields v).map Prod.fst)

/-- A descriptor and a node made for the entry of a stage count what every view of it shows. -/
theorem counts_of_entry (session : Session) (actions : List ExplorerAction) {v entry : Json}
    {name : String} (hname : isReserved name = false) (h : v.field? name = some entry)
    (index : Nat) :
    (session.explore (Program.decode v) actions).Counts v name entry
      ((Stage.decode name entry).descriptor index)
      (((Stage.decode name entry).descriptor index).node (Program.decode v).registries) := by
  have hnames := Program.nodup_names_decode v
  have hstage := Program.stage?_decode_of_field? hname h
  have hview := detail?_visit session actions hnames hstage
  have hstats := Stage.stats_decode name entry
  obtain ⟨hle, hall⟩ := (Stage.decode name entry).length_tableCards (Program.decode v).registries
  have htables : (Stage.decode name entry).tables = entry.labelsField "tables" := by
    rw [Stage.decode_eq]
  have hknown : ∀ reference, ((Program.decode v).registries.table? reference).isSome ↔
      reference ∈ (Registries.tableFields v).map Prod.fst := by
    intro reference
    rw [← Registries.tableValue?_isSome_iff, Program.decode, Registries.table?_decode,
      Option.isSome_map]
  simp only [htables, hknown] at hall
  exact {
    stats := hstats
    badges := ⟨rfl, rfl, rfl⟩
    actions := ⟨_, hview .actions, Stage.length_actionCards _⟩
    deepDive := ⟨_, hview .deepDive, Stage.length_parserSteps _⟩
    flow := by rw [hview .flow, Stage.detail, Stage.flow_decode]
    tables := ⟨_, hview .tables, hle, hall⟩ }

/-- Whoever counts the parts of a stage counts the items of its entry, and the overview counts the
same over all stages. -/
theorem counts_agree (v : Json) (session : Session) (actions : List ExplorerAction) :
    let program := Program.decode v
    let explored := session.explore program actions
    (∀ name entry, name.toList.head? ≠ some '_' → v.field? name = some entry →
      ∃ descriptor node,
        program.descriptors.filter (·.id = ⟨name⟩) = [descriptor] ∧
        program.graph.nodes.filter (·.id = ⟨name⟩) = [node] ∧
        explored.Counts v name entry descriptor node) ∧
      program.overview.stages = program.graph.nodes.length ∧
      program.overview.actions = (program.graph.nodes.map (·.badges.actions)).sum ∧
      program.overview.tables = (Registries.tableFields v).length ∧
      ∀ node ∈ program.graph.nodes,
        node.badges.headers = program.overview.headers ∧
        node.badges.externs = program.overview.externs := by
  intro program explored
  refine ⟨fun name entry hname hentry => ?_, program.length_nodes.symm, program.overview_actions,
    Registries.size_tables_decode v, fun node hnode => Program.badges_of_mem_nodes hnode⟩
  have hreserved : isReserved name = false := by simpa [isReserved] using hname
  have hstage := Program.stage?_decode_of_field? hreserved hentry
  obtain ⟨index, hshows⟩ :=
    Program.exists_shows (Program.nodup_names_decode v) hstage
  have hdescriptor := hshows.descriptor_alone
  have hnode := hshows.node_alone
  rw [Stage.name_decode] at hdescriptor hnode
  exact ⟨_, _, hdescriptor, hnode, counts_of_entry session actions hreserved hentry index⟩

/-- A parser whose actions are no array refers to one table that is there and to one that is not. -/
theorem counts_agree_degraded :
    let entry : Json := .obj [("type", .str "parser"), ("actions", .str "none"),
      ("states", .arr [.str "start", .null]), ("tables", .arr [.str "acl", .str "gone"])]
    let v : Json := .obj [("side", .arr []), ("parse", entry), ("_tables", .obj [("acl", .null)])]
    let explored := fresh.explore (Program.decode v) [.setMode .overview]
    ("parse".toList.head? ≠ some '_' ∧ v.field? "parse" = some entry) ∧
      ∃ descriptor node, explored.Counts v "parse" entry descriptor node ∧
        descriptor.stats = ⟨2, 0, 2⟩ := by
  intro entry v explored
  have hname : "parse".toList.head? ≠ some '_' := by decide
  have hentry : v.field? "parse" = some entry := rfl
  obtain ⟨hstages, _⟩ := counts_agree v fresh [.setMode .overview]
  obtain ⟨descriptor, node, _, _, hcounts⟩ := hstages "parse" entry hname hentry
  exact ⟨⟨hname, hentry⟩, descriptor, node, hcounts, hcounts.stats⟩

end Session

end StageAtlas
