import StageAtlas.Proofs.Pipeline.Chain
import StageAtlas.Proofs.View.Requests

/-! # Where the cards stand

Names in a decoded program differ, so every stage has one place on the canvas, and no card or arrow
is left out for want of one. The place depends on the position in the pipeline and on the layout
alone. Pipeline order keeps the order of the stages that are left when others are taken away, so
stages that come later move no card.
-/

namespace StageAtlas

/-! ## Stages taken away -/

/-- Where elements differ, an element keeps its index if only elements behind it are taken away. -/
theorem getElem?_of_sublist {α : Type} {kept all : List α} (h : kept.Sublist all) (hall : all.Nodup)
    {i : Nat} {a : α} (ha : all[i]? = some a)
    (hlater : ∀ j b, all[j]? = some b → b ∉ kept → i < j) : kept[i]? = some a := by
  induction h generalizing i with
  | slnil => simp at ha
  | cons b hrest ih =>
      -- The first element is gone, so it would have to stand behind the one sought.
      have hgone : b ∉ _ := fun hb => (List.nodup_cons.1 hall).1 (hrest.subset hb)
      have hlt := hlater 0 b rfl hgone
      omega
  | cons_cons b hrest ih =>
      obtain ⟨hfresh, hnodup⟩ := List.nodup_cons.1 hall
      cases i with
      | zero => exact ha
      | succ i =>
          apply ih hnodup ha
          intro j c hc hgone
          have hne : c ≠ b := by
            rintro rfl
            exact hfresh (List.mem_of_getElem? hc)
          have hlt := hlater (j + 1) c hc (by simp [hne, hgone])
          omega

theorem Stage.inOrder_sublist {kept all : List Stage} (h : kept.Sublist all) :
    (inOrder kept).Sublist (inOrder all) := by
  rw [inOrder_eq_flatten_groups, inOrder_eq_flatten_groups]
  simp only [groups, List.flatten_cons, List.flatten_nil]
  exact (h.filter _).append ((h.filter _).append ((h.filter _).append
    ((h.filter _).append (List.Sublist.refl _))))

theorem Program.ids_sublist {kept all : Program} (h : kept.stages.Sublist all.stages) :
    (kept.graph.nodes.map (·.id)).Sublist (all.graph.nodes.map (·.id)) := by
  simp only [map_id_nodes, map_id_descriptors]
  exact (Stage.inOrder_sublist h).map _

/-! ## Places -/

namespace Layout

variable {graph : PipelineGraph}

theorem positions_eq (layout : Layout) (h : (graph.nodes.map (·.id)).Nodup) :
    layout.positions graph =
      graph.nodes.map fun node => (node.id, layout.corner node.orderIndex) :=
  Keyed.collapse_of_nodup (by simpa [Function.comp_def] using h)

theorem keys_positions (layout : Layout) (h : (graph.nodes.map (·.id)).Nodup) :
    (layout.positions graph).map Prod.fst = graph.nodes.map (·.id) := by
  rw [positions_eq layout h, List.map_map]
  rfl

theorem lookup_positions (layout : Layout) (h : (graph.nodes.map (·.id)).Nodup) {node : GraphNode}
    (hnode : node ∈ graph.nodes) :
    (layout.positions graph).lookup node.id = some (layout.corner node.orderIndex) := by
  have hkeys : ((layout.positions graph).map Prod.fst).Nodup := by rwa [keys_positions layout h]
  rw [lookup_eq_some_iff_of_nodup hkeys, positions_eq layout h]
  exact List.mem_map_of_mem hnode

theorem positions_horizontal (spacing : Single) (h : (graph.nodes.map (·.id)).Nodup) :
    (⟨.horizontal, spacing⟩ : Layout).positions graph =
      ((⟨.vertical, spacing⟩ : Layout).positions graph).map fun entry =>
        (entry.1, entry.2.swap) := by
  rw [positions_eq _ h, positions_eq _ h, List.map_map]
  rfl

/-- The stage at a place of the pipeline stands where the layout has this place. -/
theorem lookup_of_getElem? (layout : Layout) {program : Program}
    (h : (program.stages.map Stage.name).Nodup) {index : Nat} {id : StageId}
    (hid : (program.graph.nodes.map (·.id))[index]? = some id) :
    (layout.positions program.graph).lookup id = some (layout.corner index) := by
  rw [List.getElem?_map] at hid
  obtain ⟨node, hnode, rfl⟩ := Option.map_eq_some_iff.1 hid
  rw [lookup_positions layout (Program.nodup_ids_nodes h) (List.mem_of_getElem? hnode),
    Program.orderIndex_of_getElem?_nodes hnode]

theorem lookup_ends_isSome (layout : Layout) {program : Program}
    (h : (program.stages.map Stage.name).Nodup) {edge : GraphEdge}
    (hedge : edge ∈ program.graph.edges) :
    ((layout.positions program.graph).lookup edge.source).isSome ∧
      ((layout.positions program.graph).lookup edge.target).isSome := by
  rw [Program.edges_eq_chain] at hedge
  obtain ⟨index, source, target, hsource, htarget, rfl⟩ := PipelineGraph.exists_of_mem_chain hedge
  rw [GraphEdge.between, lookup_of_getElem? layout h hsource, lookup_of_getElem? layout h htarget]
  exact ⟨rfl, rfl⟩

/-- Stages that come later in the pipeline move no card. -/
theorem lookup_eq_of_sublist (layout : Layout) {kept all : Program}
    (hnames : (all.stages.map Stage.name).Nodup) (h : kept.stages.Sublist all.stages)
    {node : GraphNode} (hnode : node ∈ all.graph.nodes)
    (hlater : ∀ other ∈ all.graph.nodes, other.id ∉ kept.graph.nodes.map (·.id) →
      node.orderIndex < other.orderIndex) :
    (layout.positions kept.graph).lookup node.id =
      (layout.positions all.graph).lookup node.id := by
  have hkept : (kept.stages.map Stage.name).Nodup := hnames.sublist (h.map _)
  obtain ⟨index, hindex⟩ := List.mem_iff_getElem?.1 hnode
  have hid : (all.graph.nodes.map (·.id))[index]? = some node.id := by simp [hindex]
  have hsame : (kept.graph.nodes.map (·.id))[index]? = some node.id := by
    apply getElem?_of_sublist (Program.ids_sublist h) (Program.nodup_ids_nodes hnames) hid
    intro place id hplace hgone
    rw [List.getElem?_map] at hplace
    obtain ⟨other, hother, rfl⟩ := Option.map_eq_some_iff.1 hplace
    have hlt := hlater other (List.mem_of_getElem? hother) hgone
    rwa [Program.orderIndex_of_getElem?_nodes hindex,
      Program.orderIndex_of_getElem?_nodes hother] at hlt
  rw [lookup_of_getElem? layout hkept hsame, lookup_of_getElem? layout hnames hid]

end Layout

/-! ## What is drawn at the places -/

namespace Canvas

variable (layout : Layout) (viewport : Viewport) (bounds : Rect)

/-- A card is left out only if it does not touch the canvas. -/
theorem cards_eq {graph : PipelineGraph} (h : (graph.nodes.map (·.id)).Nodup) :
    Canvas.cards graph layout viewport bounds =
      (graph.nodes.map fun node =>
        ⟨node, viewport.card bounds (layout.corner node.orderIndex)⟩).filter
        fun card => bounds.intersects card.area := by
  rw [Canvas.cards, ← List.filterMap_eq_filter, List.filterMap_map]
  apply List.filterMap_congr
  intro node hnode
  rw [card?, layout.lookup_positions h hnode]
  rfl

theorem arrows_eq {program : Program} (h : (program.stages.map Stage.name).Nodup) :
    arrows program.graph layout viewport bounds =
      (program.graph.edges.mapIdx fun index _ =>
        drawArrow layout.orientation viewport.zoom
          (viewport.card bounds (layout.corner index))
          (viewport.card bounds (layout.corner (index + 1)))).flatten := by
  rw [arrows, List.flatMap_def]
  congr 1
  apply List.ext_getElem?
  intro index
  rw [List.getElem?_map, List.getElem?_mapIdx]
  cases hedge : program.graph.edges[index]? with
  | none => rfl
  | some edge =>
      rw [Program.edges_eq_chain] at hedge
      obtain ⟨source, target, hsource, htarget, rfl⟩ :=
        PipelineGraph.exists_of_getElem?_chain hedge
      simp only [GraphEdge.between, Option.map_some, layout.lookup_of_getElem? h hsource,
        layout.lookup_of_getElem? h htarget]

end Canvas

/-! ## A decoded document -/

/-- On a decoded document every node has one entry, which is where the layout has its position in
the pipeline, and so have the ends of every edge; cards that touch the canvas and all arrows are
drawn. The two directions differ by an exchange of the axes. Stages that another document has
besides, or that it was left without, move no card in front of them. -/
theorem positions_decode (v : Json) (layout : Layout) :
    let graph := (Program.decode v).graph
    let positions := layout.positions graph
    positions.map Prod.fst = graph.nodes.map (·.id) ∧
      (positions.map Prod.fst).Nodup ∧
      (∀ node ∈ graph.nodes,
        positions.lookup node.id = some (layout.corner node.orderIndex)) ∧
      (∀ edge ∈ graph.edges,
        (positions.lookup edge.source).isSome ∧ (positions.lookup edge.target).isSome) ∧
      (∀ (viewport : Canvas.Viewport) (bounds : Rect),
        Canvas.cards graph layout viewport bounds =
          (graph.nodes.map fun node =>
            ⟨node, viewport.card bounds (layout.corner node.orderIndex)⟩).filter
            (fun card => bounds.intersects card.area) ∧
        Canvas.arrows graph layout viewport bounds =
          (graph.edges.mapIdx fun index _ =>
            Canvas.drawArrow layout.orientation viewport.zoom
              (viewport.card bounds (layout.corner index))
              (viewport.card bounds (layout.corner (index + 1)))).flatten) ∧
      (∀ spacing, (⟨.horizontal, spacing⟩ : Layout).positions graph =
        ((⟨.vertical, spacing⟩ : Layout).positions graph).map fun entry =>
          (entry.1, entry.2.swap)) ∧
      ∀ w, let other := (Program.decode w).graph
        (Program.decode v).stages.Sublist (Program.decode w).stages →
        ∀ node ∈ other.nodes,
          (∀ added ∈ other.nodes, added.id ∉ graph.nodes.map (·.id) →
            node.orderIndex < added.orderIndex) →
          positions.lookup node.id = (layout.positions other).lookup node.id := by
  intro graph positions
  have hnames := Program.nodup_names_decode v
  have hnodes : (graph.nodes.map (·.id)).Nodup := Program.nodup_ids_nodes hnames
  have hkeys : positions.map Prod.fst = graph.nodes.map (·.id) := layout.keys_positions hnodes
  refine ⟨hkeys, hkeys ▸ hnodes, fun node => layout.lookup_positions hnodes,
    fun edge => layout.lookup_ends_isSome hnames,
    fun viewport bounds => ⟨Canvas.cards_eq layout viewport bounds hnodes,
      Canvas.arrows_eq layout viewport bounds hnames⟩,
    fun spacing => Layout.positions_horizontal spacing hnodes, ?_⟩
  intro w other hkept node
  exact layout.lookup_eq_of_sublist (Program.nodup_names_decode w) hkept

/-- The same deparser before and after two stages were added that the document has in front of it
and the pipeline behind it. -/
theorem positions_decode_extended :
    let v : Json := .obj [("emit", .obj [("type", .str "deparser")]),
      ("start", .obj [("type", .str "parser")])]
    let w : Json := .obj [("metrics", .null), ("emit", .obj [("type", .str "deparser")]),
      ("audit", .obj [("type", .str "deparser")]), ("start", .obj [("type", .str "parser")])]
    let emit : GraphNode := ⟨⟨"emit"⟩, "emit", .deparser, 1, ⟨0, 0, 0, 0, 0⟩⟩
    (Program.decode v).stages.Sublist (Program.decode w).stages ∧
      emit ∈ (Program.decode w).graph.nodes ∧
      (Layout.standard.positions (Program.decode v).graph).lookup emit.id = some ⟨40, 360⟩ ∧
      (Layout.standard.positions (Program.decode v).graph).lookup emit.id =
        (Layout.standard.positions (Program.decode w).graph).lookup emit.id := by
  intro v w emit
  let start : GraphNode := ⟨⟨"start"⟩, "start", .parser, 0, ⟨0, 0, 0, 0, 0⟩⟩
  let audit : GraphNode := ⟨⟨"audit"⟩, "audit", .deparser, 2, ⟨0, 0, 0, 0, 0⟩⟩
  let metrics : GraphNode := ⟨⟨"metrics"⟩, "metrics", .unknown, 3, ⟨0, 0, 0, 0, 0⟩⟩
  have hstages : (Program.decode v).stages.Sublist (Program.decode w).stages := by decide +kernel
  have hold : (Program.decode v).graph.nodes = [start, emit] := by
    rw [Program.graph, PipelineGraph.build, Program.descriptors, Stage.inOrder_eq_flatten_groups]
    decide +kernel
  have hnew : (Program.decode w).graph.nodes = [start, emit, audit, metrics] := by
    rw [Program.graph, PipelineGraph.build, Program.descriptors, Stage.inOrder_eq_flatten_groups]
    decide +kernel
  have hlater : ∀ added ∈ (Program.decode w).graph.nodes,
      added.id ∉ (Program.decode v).graph.nodes.map (·.id) →
        emit.orderIndex < added.orderIndex := by
    rw [hold, hnew]
    decide +kernel
  have hmem : emit ∈ (Program.decode w).graph.nodes := by simp [hnew]
  obtain ⟨-, -, hplaces, -, -, -, hkept⟩ := positions_decode v .standard
  refine ⟨hstages, hmem, ?_, hkept w hstages emit hmem hlater⟩
  rw [hplaces emit (by simp [hold])]
  decide +kernel

end StageAtlas
