import StageAtlas.Proofs.Pipeline.Chain

/-! # The texts of edges

An edge is known by the two stages that it joins, and no two edges of a decoded program join the
same ones. Its text sets a hyphen between two names, which may have hyphens themselves. So two edges
share a text just when one text can be cut at two hyphens into names of stages.
-/

namespace StageAtlas

/-- Two ways to cut a list at a separator: in one place, or with something between the places. -/
theorem append_cons_eq_append_cons_iff {α : Type} {cut : α} {a b c d : List α} :
    a ++ cut :: b = c ++ cut :: d ↔
      (a = c ∧ b = d) ∨ (∃ middle, c = a ++ cut :: middle ∧ b = middle ++ cut :: d) ∨
        ∃ middle, a = c ++ cut :: middle ∧ d = middle ++ cut :: b := by
  constructor
  · intro h
    obtain ⟨between, hc, hb⟩ | ⟨between, ha, hd⟩ := List.append_eq_append_iff.1 h
    · cases between with
      | nil => exact .inl ⟨by simpa using hc.symm, by simpa using hb⟩
      | cons first middle =>
          obtain ⟨rfl, hrest⟩ := List.cons.inj hb
          exact .inr (.inl ⟨middle, hc, hrest⟩)
    · cases between with
      | nil => exact .inl ⟨by simpa using ha, by simpa using hd.symm⟩
      | cons first middle =>
          obtain ⟨rfl, hrest⟩ := List.cons.inj hd
          exact .inr (.inr ⟨middle, ha, hrest⟩)
  · rintro (⟨rfl, rfl⟩ | ⟨middle, rfl, rfl⟩ | ⟨middle, rfl, rfl⟩)
    · rfl
    · simp
    · simp

namespace EdgeId

/-- Two edges of one text: the source of the second one goes on, behind a hyphen, with a part of the
target of the first one. -/
def Overlaps (a b : EdgeId) : Prop :=
  ∃ middle, b.source.name = a.source.name ++ "-" ++ middle ∧
    a.target.name = middle ++ "-" ++ b.target.name

theorem toList_display (id : EdgeId) :
    id.display.toList =
      'e' :: '-' :: (id.source.name.toList ++ '-' :: id.target.name.toList) := by
  simp [display]

theorem overlaps_iff {a b : EdgeId} :
    a.Overlaps b ↔ ∃ middle,
      b.source.name.toList = a.source.name.toList ++ '-' :: middle ∧
        a.target.name.toList = middle ++ '-' :: b.target.name.toList := by
  constructor
  · rintro ⟨middle, hsource, htarget⟩
    exact ⟨middle.toList, by simp [hsource], by simp [htarget]⟩
  · rintro ⟨middle, hsource, htarget⟩
    refine ⟨String.ofList middle, ?_, ?_⟩
    · simp [← String.toList_inj, hsource]
    · simp [← String.toList_inj, htarget]

theorem display_eq_iff {a b : EdgeId} :
    a.display = b.display ↔ a = b ∨ a.Overlaps b ∨ b.Overlaps a := by
  have hsame : a = b ↔ a.source.name.toList = b.source.name.toList ∧
      a.target.name.toList = b.target.name.toList := by
    obtain ⟨⟨s⟩, ⟨t⟩⟩ := a
    obtain ⟨⟨s'⟩, ⟨t'⟩⟩ := b
    simp [String.toList_inj]
  rw [← String.toList_inj, toList_display, toList_display, hsame, overlaps_iff, overlaps_iff]
  simp only [List.cons.injEq, true_and, append_cons_eq_append_cons_iff]

theorem Overlaps.mem_source {a b : EdgeId} (h : a.Overlaps b) : '-' ∈ b.source.name.toList := by
  obtain ⟨middle, hsource, -⟩ := overlaps_iff.1 h
  simp [hsource]

theorem not_overlaps_self (id : EdgeId) : ¬ id.Overlaps id := by
  intro h
  obtain ⟨middle, hsource, -⟩ := overlaps_iff.1 h
  have hlength := congrArg List.length hsource
  simp at hlength

end EdgeId

namespace Program

theorem nodup_ids_edges {program : Program} (h : (program.stages.map Stage.name).Nodup) :
    (program.graph.edges.map (·.id)).Nodup :=
  (PipelineGraph.isPath_of_chain (nodup_ids_nodes h) (edges_eq_chain program)
    (pairwise_rank_nodes program)).edges_distinct

theorem exists_stage_of_mem_edges {program : Program} {edge : GraphEdge}
    (h : edge ∈ program.graph.edges) :
    ∃ stage ∈ program.stages, edge.id.source.name = stage.name := by
  rw [edges_eq_chain] at h
  obtain ⟨index, source, target, hsource, -, rfl⟩ := PipelineGraph.exists_of_mem_chain h
  have hid := List.mem_of_getElem? hsource
  rw [map_id_nodes, map_id_descriptors] at hid
  obtain ⟨stage, hstage, rfl⟩ := List.mem_map.1 hid
  exact ⟨stage, Stage.mem_inOrder.1 hstage, rfl⟩

/-- The edges of a decoded document join different stages. Two of them share a text just when they
overlap, so all texts differ just when no two edges overlap; and that is so where no name of a
stage has a hyphen. -/
theorem edge_texts_decode (v : Json) :
    let edges := (decode v).graph.edges
    (edges.map (·.id)).Nodup ∧
      (∀ a ∈ edges, ∀ b ∈ edges,
        a.id.display = b.id.display ↔ a = b ∨ a.id.Overlaps b.id ∨ b.id.Overlaps a.id) ∧
      ((edges.map (·.id.display)).Nodup ↔ ∀ a ∈ edges, ∀ b ∈ edges, ¬ a.id.Overlaps b.id) ∧
      ((∀ stage ∈ (decode v).stages, '-' ∉ stage.name.toList) →
        (edges.map (·.id.display)).Nodup) := by
  intro edges
  have hids : (edges.map (·.id)).Nodup := nodup_ids_edges (nodup_names_decode v)
  have hsame : ∀ a ∈ edges, ∀ b ∈ edges,
      a.id.display = b.id.display ↔ a = b ∨ a.id.Overlaps b.id ∨ b.id.Overlaps a.id := by
    intro a ha b hb
    have hid : a.id = b.id ↔ a = b := ⟨List.inj_on_of_nodup_map hids ha hb, congrArg _⟩
    rw [EdgeId.display_eq_iff, hid]
  have htexts : (edges.map (·.id.display)).Nodup ↔
      ∀ a ∈ edges, ∀ b ∈ edges, ¬ a.id.Overlaps b.id := by
    rw [List.nodup_map_iff_inj_on hids.of_map]
    constructor
    · intro hinj a ha b hb hover
      obtain rfl := hinj a ha b hb ((hsame a ha b hb).2 (.inr (.inl hover)))
      exact a.id.not_overlaps_self hover
    · intro hnone a ha b hb htext
      rcases (hsame a ha b hb).1 htext with h | h | h
      · exact h
      · exact (hnone a ha b hb h).elim
      · exact (hnone b hb a ha h).elim
  refine ⟨hids, hsame, htexts, fun hnames => htexts.2 fun a _ b hb hover => ?_⟩
  obtain ⟨stage, hstage, hname⟩ := exists_stage_of_mem_edges hb
  exact hnames stage hstage (hname ▸ hover.mem_source)

/-- Names without a hyphen. -/
theorem edge_texts_decode_plain :
    let v : Json := .obj [("emit", .obj [("type", .str "deparser")]), ("start", .null)]
    let edges := (decode v).graph.edges
    (∀ stage ∈ (decode v).stages, '-' ∉ stage.name.toList) ∧
      (edges.map (·.id.display)).Nodup := by
  intro v edges
  have hnames : ∀ stage ∈ (decode v).stages, '-' ∉ stage.name.toList := by decide +kernel
  obtain ⟨-, -, -, hplain⟩ := edge_texts_decode v
  exact ⟨hnames, hplain hnames⟩

/-- Hyphens at both ends of the pipeline, and none between: the one overlaps the other. -/
theorem edge_texts_collide :
    let v : Json := .obj [("a-b", .obj [("type", .str "control")]),
      ("a", .obj [("type", .str "control")]), ("b-a", .obj [("type", .str "control")])]
    let edges := (decode v).graph.edges
    edges = [.between ⟨"a-b"⟩ ⟨"a"⟩, .between ⟨"a"⟩ ⟨"b-a"⟩] ∧
      edges.map (·.id.display) = ["e-a-b-a", "e-a-b-a"] ∧
      ¬ (edges.map (·.id.display)).Nodup := by
  intro v edges
  have hedges : edges = [.between ⟨"a-b"⟩ ⟨"a"⟩, .between ⟨"a"⟩ ⟨"b-a"⟩] := by
    change (decode v).graph.edges = _
    rw [edges_eq_chain, map_id_nodes, descriptors, Stage.inOrder_eq_flatten_groups]
    decide +kernel
  rw [hedges]
  decide +kernel

end Program

end StageAtlas
