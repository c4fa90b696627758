import StageAtlas.Proofs.Pipeline.Groups
import StageAtlas.Proofs.Pipeline.Places
import StageAtlas.Program.Decode

/-! # The graph is one path

The edges join the nodes as they follow each other. That this is a simple path, and no walk that
comes back to a node, takes the distinct names that decoding establishes; that no edge leads back in
rank takes the order of the pipeline.
-/

namespace StageAtlas

namespace PipelineGraph

/-! ## Chains -/

theorem length_chain (ids : List StageId) : (chain ids).length = ids.length - 1 := by
  rw [chain, List.length_zipWith, List.length_tail]
  omega

theorem getElem?_chain {ids : List StageId} {i : Nat} {source target : StageId}
    (hsource : ids[i]? = some source) (htarget : ids[i + 1]? = some target) :
    (chain ids)[i]? = some (.between source target) := by
  rw [chain, List.getElem?_zipWith, List.getElem?_tail, hsource, htarget]

theorem map_source_chain (ids : List StageId) : (chain ids).map (·.source) = ids.dropLast := by
  induction ids with
  | nil => rfl
  | cons id rest ih =>
      cases rest with
      | nil => rfl
      | cons next rest => exact congrArg (id :: ·) ih

theorem map_target_chain (ids : List StageId) : (chain ids).map (·.target) = ids.tail := by
  induction ids with
  | nil => rfl
  | cons id rest ih =>
      cases rest with
      | nil => rfl
      | cons next rest => exact congrArg (next :: ·) ih

theorem exists_of_getElem?_chain {ids : List StageId} {i : Nat} {edge : GraphEdge}
    (h : (chain ids)[i]? = some edge) :
    ∃ source target, ids[i]? = some source ∧ ids[i + 1]? = some target ∧
      edge = .between source target := by
  rw [chain, List.getElem?_zipWith, List.getElem?_tail] at h
  split at h
  · rename_i source target hsource htarget
    exact ⟨source, target, hsource, htarget, (Option.some.inj h).symm⟩
  · cases h

theorem exists_of_mem_chain {ids : List StageId} {edge : GraphEdge} (h : edge ∈ chain ids) :
    ∃ i source target, ids[i]? = some source ∧ ids[i + 1]? = some target ∧
      edge = .between source target := by
  obtain ⟨i, hi⟩ := List.mem_iff_getElem?.1 h
  exact ⟨i, exists_of_getElem?_chain hi⟩

section Nodup

variable {ids : List StageId} {i j : Nat} {id : StageId}

theorem eq_of_getElem?_of_nodup (h : ids.Nodup) (hi : ids[i]? = some id) (hj : ids[j]? = some id) :
    i = j := by
  obtain ⟨hlt, hget⟩ := List.getElem?_eq_some_iff.1 hi
  obtain ⟨hlt', hget'⟩ := List.getElem?_eq_some_iff.1 hj
  exact (h.getElem_inj_iff).1 (hget.trans hget'.symm)

/-- Among distinct identities only the last one is the source of no edge, and any other of one. -/
theorem count_dropLast (h : ids.Nodup) (hi : ids[i]? = some id) :
    ids.dropLast.count id = if i + 1 = ids.length then 0 else 1 := by
  obtain ⟨hlt, hget⟩ := List.getElem?_eq_some_iff.1 hi
  split
  · rename_i hlast
    rw [List.count_eq_zero]
    intro hmem
    obtain ⟨j, hj⟩ := List.mem_iff_getElem?.1 hmem
    rw [List.getElem?_dropLast] at hj
    split at hj
    · have hsame := eq_of_getElem?_of_nodup h hi hj
      omega
    · cases hj
  · rename_i hlast
    have hmem : id ∈ ids.dropLast := by
      apply List.mem_of_getElem? (i := i)
      rw [List.getElem?_dropLast, if_pos (by omega), hi]
    exact List.count_eq_one_of_mem (h.sublist (List.dropLast_sublist ids)) hmem

/-- Among distinct identities only the first one is the target of no edge, and any other of one. -/
theorem count_tail (h : ids.Nodup) (hi : ids[i]? = some id) :
    ids.tail.count id = if i = 0 then 0 else 1 := by
  split
  · rename_i hfirst
    subst hfirst
    rw [List.count_eq_zero]
    intro hmem
    obtain ⟨j, hj⟩ := List.mem_iff_getElem?.1 hmem
    rw [List.getElem?_tail] at hj
    have hsame := eq_of_getElem?_of_nodup h hi hj
    omega
  · rename_i hfirst
    have hmem : id ∈ ids.tail := by
      apply List.mem_of_getElem? (i := i - 1)
      rw [List.getElem?_tail, Nat.sub_add_cancel (Nat.pos_of_ne_zero hfirst), hi]
    exact List.count_eq_one_of_mem (h.sublist (List.tail_sublist ids)) hmem

end Nodup

/-! ## Paths -/

/-- One simple directed path that visits the nodes in their order and never falls in rank. -/
structure IsPath (graph : PipelineGraph) : Prop where
  nodes_distinct : (graph.nodes.map (·.id)).Nodup
  length_edges : graph.edges.length = graph.nodes.length - 1
  edge : ∀ i source target, graph.nodes[i]? = some source → graph.nodes[i + 1]? = some target →
    graph.edges[i]? = some ⟨⟨source.id, target.id⟩, source.id, target.id⟩
  no_loop : ∀ edge ∈ graph.edges, edge.source ≠ edge.target
  edges_distinct : (graph.edges.map (·.id)).Nodup
  incoming : ∀ i node, graph.nodes[i]? = some node →
    graph.edges.countP (·.target = node.id) = if i = 0 then 0 else 1
  outgoing : ∀ i node, graph.nodes[i]? = some node →
    graph.edges.countP (·.source = node.id) = if i + 1 = graph.nodes.length then 0 else 1
  rank_le : ∀ edge ∈ graph.edges, ∀ source ∈ graph.nodes, ∀ target ∈ graph.nodes,
    source.id = edge.source → target.id = edge.target → source.kind.rank ≤ target.kind.rank

theorem isPath_of_chain {graph : PipelineGraph} (hnodup : (graph.nodes.map (·.id)).Nodup)
    (hedges : graph.edges = chain (graph.nodes.map (·.id)))
    (hsorted : graph.nodes.Pairwise fun a b => a.kind.rank ≤ b.kind.rank) : graph.IsPath where
  nodes_distinct := hnodup
  length_edges := by rw [hedges, length_chain, List.length_map]
  edge := by
    intro i source target hsource htarget
    rw [hedges]
    exact getElem?_chain (by simp [hsource]) (by simp [htarget])
  no_loop := by
    intro edge hedge heq
    rw [hedges] at hedge
    obtain ⟨i, source, target, hsource, htarget, rfl⟩ := exists_of_mem_chain hedge
    obtain rfl : source = target := heq
    have hsame := eq_of_getElem?_of_nodup hnodup hsource htarget
    omega
  edges_distinct := by
    have hsources :
        ((graph.edges.map (·.id)).map (·.source)) = (graph.nodes.map (·.id)).dropLast := by
      rw [hedges, ← map_source_chain, List.map_map]
      apply List.map_congr_left
      intro edge hedge
      obtain ⟨i, source, target, _, _, rfl⟩ := exists_of_mem_chain hedge
      rfl
    apply List.Nodup.of_map (·.source)
    rw [hsources]
    exact hnodup.sublist (List.dropLast_sublist _)
  incoming := by
    intro i node hnode
    have hid : (graph.nodes.map (·.id))[i]? = some node.id := by simp [hnode]
    have hcount := count_tail hnodup hid
    rwa [← map_target_chain, ← hedges, List.count, List.countP_map] at hcount
  outgoing := by
    intro i node hnode
    have hid : (graph.nodes.map (·.id))[i]? = some node.id := by simp [hnode]
    have hcount := count_dropLast hnodup hid
    rwa [← map_source_chain, ← hedges, List.length_map, List.count, List.countP_map] at hcount
  rank_le := by
    intro edge hedge source hsource target htarget hfrom hto
    rw [hedges] at hedge
    obtain ⟨i, first, second, hfirst, hsecond, rfl⟩ := exists_of_mem_chain hedge
    -- Names differ, so the nodes that the edge names are the ones in these two places.
    have hplace : ∀ node ∈ graph.nodes, ∀ {j : Nat} {id : StageId},
        (graph.nodes.map (·.id))[j]? = some id → node.id = id → graph.nodes[j]? = some node := by
      intro node hnode j id hid heq
      obtain ⟨k, hk⟩ := List.mem_iff_getElem?.1 hnode
      have hkid : (graph.nodes.map (·.id))[k]? = some id := by simp [hk, heq]
      rwa [eq_of_getElem?_of_nodup hnodup hid hkid]
    obtain ⟨hi, rfl⟩ := List.getElem?_eq_some_iff.1 (hplace source hsource hfirst hfrom)
    obtain ⟨hj, rfl⟩ := List.getElem?_eq_some_iff.1 (hplace target htarget hsecond hto)
    exact List.pairwise_iff_getElem.1 hsorted i (i + 1) hi hj (Nat.lt_succ_self i)

end PipelineGraph

namespace Program

theorem edges_eq_chain (program : Program) :
    program.graph.edges = PipelineGraph.chain (program.graph.nodes.map (·.id)) := by
  rw [map_id_nodes]
  rfl

theorem pairwise_rank_nodes (program : Program) :
    program.graph.nodes.Pairwise fun a b => a.kind.rank ≤ b.kind.rank := by
  have hranks : program.graph.nodes.map (·.kind.rank) =
      (Stage.inOrder program.stages).map (·.kind.rank) := by
    apply List.ext_getElem?
    intro index
    simp only [List.getElem?_map, getElem?_nodes, getElem?_descriptors, Option.map_map]
    rfl
  have hsorted := Stage.pairwise_rank_inOrder program.stages
  rwa [← List.pairwise_map (R := (· ≤ ·)), hranks, List.pairwise_map]

/-- The graph of any decoded value is one simple path over its descriptors, node by node, and every
node shows how many headers and externs the whole program has. -/
theorem graph_decode_isPath (v : Json) :
    (decode v).graph.IsPath ∧
      (decode v).graph.nodes = (decode v).descriptors.mapIdx fun index descriptor =>
        { id := descriptor.id
          label := descriptor.name
          kind := descriptor.kind
          orderIndex := index
          badges :=
            { tables := descriptor.stats.tables
              actions := descriptor.stats.actions
              states := descriptor.stats.states
              headers := (decode v).registries.headers.length
              externs := (decode v).registries.externs.length } } := by
  have hids : ((decode v).graph.nodes.map (·.id)).Nodup := nodup_ids_nodes (nodup_names_decode v)
  refine ⟨PipelineGraph.isPath_of_chain hids (edges_eq_chain _) (pairwise_rank_nodes _), ?_⟩
  apply List.ext_getElem?
  intro index
  rw [getElem?_nodes, List.getElem?_mapIdx, getElem?_descriptors, Option.map_map, Option.map_map]
  rfl

end Program

end StageAtlas
