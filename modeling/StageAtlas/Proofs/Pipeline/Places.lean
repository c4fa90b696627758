import StageAtlas.Proofs.Pipeline.Order

/-! # The place of a stage

Stages are looked up by name in three orders: that of the document, that of the pipeline and that of
the graph. Where names differ, all three look-ups lead to the same stage, which has one descriptor
and one node, both at its place in the pipeline.
-/

namespace StageAtlas

/-- Where a key tells elements apart, the elements with the key of one of them are just this one. -/
theorem filter_eq_singleton_of_nodup {α β : Type} [DecidableEq β] {key : α → β} {l : List α}
    (h : (l.map key).Nodup) {a : α} (ha : a ∈ l) : l.filter (fun b => key b = key a) = [a] := by
  induction l with
  | nil => cases ha
  | cons b rest ih =>
      obtain ⟨hfresh, hrest⟩ := List.nodup_cons.1 h
      rcases List.mem_cons.1 ha with rfl | hmem
      · have hnone : rest.filter (fun b => key b = key a) = [] := by
          rw [List.filter_eq_nil_iff]
          intro b hb heq
          exact hfresh (of_decide_eq_true heq ▸ List.mem_map_of_mem hb)
        simp [hnone]
      · have hne : key b ≠ key a := fun heq => hfresh (heq ▸ List.mem_map_of_mem hmem)
        simpa [hne] using ih hrest hmem

namespace Program

theorem getElem?_descriptors (program : Program) (index : Nat) :
    program.descriptors[index]? =
      (Stage.inOrder program.stages)[index]?.map fun stage => stage.descriptor index := by
  simp [descriptors]

theorem getElem?_nodes (program : Program) (index : Nat) :
    program.graph.nodes[index]? =
      program.descriptors[index]?.map fun descriptor => descriptor.node program.registries := by
  simp [graph, PipelineGraph.build]

theorem map_id_nodes (program : Program) :
    program.graph.nodes.map (·.id) = program.descriptors.map (·.id) := by
  simp [graph, PipelineGraph.build, StageDescriptor.node, Function.comp_def]

theorem nodup_ids_nodes {program : Program} (h : (program.stages.map Stage.name).Nodup) :
    (program.graph.nodes.map (·.id)).Nodup := by
  rw [map_id_nodes]
  exact nodup_ids_descriptors h

theorem orderIndex_of_getElem?_nodes {program : Program} {index : Nat} {node : GraphNode}
    (h : program.graph.nodes[index]? = some node) : node.orderIndex = index := by
  simp only [getElem?_nodes, getElem?_descriptors, Option.map_map, Option.map_eq_some_iff] at h
  obtain ⟨stage, -, rfl⟩ := h
  rfl

theorem name_of_stage?_eq_some {program : Program} {name : String} {stage : Stage}
    (h : program.stage? name = some stage) : stage.name = name := by
  simpa using List.find?_some h

theorem mem_of_stage?_eq_some {program : Program} {name : String} {stage : Stage}
    (h : program.stage? name = some stage) : stage ∈ program.stages := List.mem_of_find?_eq_some h

theorem knows_descriptors_iff (program : Program) (name : String) :
    Explorer.knows program.descriptors ⟨name⟩ ↔ (program.stage? name).isSome := by
  constructor
  · exact stage?_isSome_of_knows
  · intro h
    obtain ⟨stage, hstage⟩ := Option.isSome_iff_exists.1 h
    have hid : (⟨name⟩ : StageId) ∈ program.descriptors.map (·.id) := by
      rw [map_id_descriptors, ← name_of_stage?_eq_some hstage]
      exact List.mem_map.2 ⟨stage, Stage.mem_inOrder.2 (mem_of_stage?_eq_some hstage), rfl⟩
    simpa [Explorer.knows] using hid

theorem node?_isSome_iff (program : Program) (id : StageId) :
    (program.graph.node? id).isSome ↔ Explorer.knows program.descriptors id := by
  simp [graph, PipelineGraph.build, PipelineGraph.node?, StageDescriptor.node, Explorer.knows]

/-- What a stage shows of itself wherever it is looked up: one descriptor and one node, at one place
and with the counts of the stage. -/
structure Shows (program : Program) (stage : Stage) (descriptor : StageDescriptor)
    (node : GraphNode) : Prop where
  descriptor_alone : program.descriptors.filter (·.id = ⟨stage.name⟩) = [descriptor]
  node_alone : program.graph.nodes.filter (·.id = ⟨stage.name⟩) = [node]
  descriptor_place : program.descriptors[descriptor.orderIndex]? = some descriptor
  node_place : program.graph.nodes[node.orderIndex]? = some node
  same_place : node.orderIndex = descriptor.orderIndex
  descriptor_kind : descriptor.kind = stage.kind
  node_kind : node.kind = stage.kind
  stats : descriptor.stats =
    ⟨stage.tables.length, (stage.actions.getD []).length, (stage.states.getD []).length⟩
  tables : node.badges.tables = stage.tables.length
  actions : node.badges.actions = (stage.actions.getD []).length
  states : node.badges.states = (stage.states.getD []).length

theorem exists_shows {program : Program} (h : (program.stages.map Stage.name).Nodup)
    {name : String} {stage : Stage} (hstage : program.stage? name = some stage) :
    ∃ index, program.Shows stage (stage.descriptor index)
      ((stage.descriptor index).node program.registries) := by
  have hmem := Stage.mem_inOrder.2 (mem_of_stage?_eq_some hstage)
  obtain ⟨index, hindex⟩ := List.mem_iff_getElem?.1 hmem
  have hdescriptor : program.descriptors[index]? = some (stage.descriptor index) := by
    simp [getElem?_descriptors, hindex]
  have hnode : program.graph.nodes[index]? =
      some ((stage.descriptor index).node program.registries) := by
    simp [getElem?_nodes, hdescriptor]
  have hids := nodup_ids_descriptors h
  have hnodes := nodup_ids_nodes h
  exact ⟨index, {
    descriptor_alone := filter_eq_singleton_of_nodup hids (List.mem_of_getElem? hdescriptor)
    node_alone := filter_eq_singleton_of_nodup hnodes (List.mem_of_getElem? hnode)
    descriptor_place := hdescriptor
    node_place := hnode
    same_place := rfl
    descriptor_kind := rfl
    node_kind := rfl
    stats := rfl
    tables := rfl
    actions := rfl
    states := rfl }⟩

variable {program : Program} {stage : Stage} {descriptor : StageDescriptor} {node : GraphNode}

theorem Shows.find?_descriptors (h : program.Shows stage descriptor node) :
    program.descriptors.find? (·.id = ⟨stage.name⟩) = some descriptor := by
  rw [← List.head?_filter, h.descriptor_alone, List.head?_cons]

theorem Shows.node?_eq_some (h : program.Shows stage descriptor node) :
    program.graph.node? ⟨stage.name⟩ = some node := by
  rw [PipelineGraph.node?, ← List.head?_filter, h.node_alone, List.head?_cons]

end Program

end StageAtlas
