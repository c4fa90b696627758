import StageAtlas.Proofs.Binary.Accuracy
import StageAtlas.Proofs.Preferences.Sanitizing
import StageAtlas.Proofs.Session.Counts
import StageAtlas.Proofs.View.Placement

/-! # The distance of the cards

A card stands at a rounded product behind the margin, and the sum is rounded once more. So later
cards never stand before earlier ones, but they may stand in the same place where the distance of
cards is small against the margin or the length of the pipeline, and beyond all numbers where it is
large. In between all cards stand apart.
-/

namespace StageAtlas

open BinaryFormat

namespace Layout

def along (layout : Layout) (p : Point) : Single :=
  match layout.orientation with
  | .vertical => p.y
  | .horizontal => p.x

def across (layout : Layout) (p : Point) : Single :=
  match layout.orientation with
  | .vertical => p.x
  | .horizontal => p.y

/-- Every node has a place, which is at the margin across the pipeline and not in front of the
margin along it, and no card stands in front of an earlier one. -/
structure KeepsOrder (layout : Layout) (graph : PipelineGraph) : Prop where
  placed : ∀ node ∈ graph.nodes, ∃ p, (layout.positions graph).lookup node.id = some p ∧
    layout.across p = margin ∧ margin.le (layout.along p) = true
  ordered : ∀ (i j : Nat) (a b : GraphNode) p q, i ≤ j →
    graph.nodes[i]? = some a → graph.nodes[j]? = some b →
    (layout.positions graph).lookup a.id = some p →
    (layout.positions graph).lookup b.id = some q → (layout.along p).le (layout.along q) = true

/-- All coordinates of cards are finite, and each card stands behind the one before it. -/
structure KeepsApart (layout : Layout) (graph : PipelineGraph) : Prop where
  finite : ∀ node ∈ graph.nodes, ∀ p, (layout.positions graph).lookup node.id = some p →
    p.x.isFinite = true ∧ p.y.isFinite = true
  behind : ∀ i a b p q, graph.nodes[i]? = some a → graph.nodes[i + 1]? = some b →
    (layout.positions graph).lookup a.id = some p →
    (layout.positions graph).lookup b.id = some q → (layout.along p).lt (layout.along q) = true

/-- The distance of cards is a finite number above zero, with a given ordinal. -/
structure Spaced (layout : Layout) (spacing : Nat) : Prop where
  pos : 0 < spacing
  finite : spacing < single.infinity
  spacing_eq : layout.spacing = .signed false spacing finite.le

theorem along_corner (layout : Layout) (orderIndex : Nat) :
    layout.along (layout.corner orderIndex) = margin + layout.offset orderIndex := by
  cases h : layout.orientation <;> simp [along, corner, h]

theorem across_corner (layout : Layout) (orderIndex : Nat) :
    layout.across (layout.corner orderIndex) = margin := by
  cases h : layout.orientation <;> simp [across, corner, h]

/-! ## The ordinal of a coordinate -/

def marginOrdinal : Nat := single.nearest (40 * single.unitsPerOne) 1

/-- The ordinal of the coordinate along the pipeline, for a distance of cards with a given one. -/
def placeOrdinal (spacing orderIndex : Nat) : Nat :=
  single.sum marginOrdinal
    (single.product (single.nearest (orderIndex * single.unitsPerOne) 1) spacing)

theorem reach_single : 2 * 2 ^ single.significandBits * single.unitsPerOne ≤
    single.units single.infinity := by decide +kernel

theorem units_marginOrdinal : single.units marginOrdinal = 40 * single.unitsPerOne :=
  single.units_nearest_mul_unitsPerOne (by decide) reach_single

theorem marginOrdinal_lt_infinity : marginOrdinal < single.infinity := by decide +kernel

theorem placeOrdinal_le (spacing orderIndex : Nat) :
    placeOrdinal spacing orderIndex ≤ single.infinity := single.nearest_le _ _

theorem placeOrdinal_mono (spacing : Nat) {i j : Nat} (h : i ≤ j) :
    placeOrdinal spacing i ≤ placeOrdinal spacing j :=
  single.sum_mono _ (single.product_mono _
    (single.nearest_mono (Nat.mul_le_mul_right _ h) 1) (single.nearest_le _ _))

theorem margin_eq : margin = .signed false marginOrdinal marginOrdinal_lt_infinity.le := rfl

theorem Spaced.margin_add_offset {layout : Layout} {spacing : Nat} (h : layout.Spaced spacing)
    (orderIndex : Nat) :
    margin + layout.offset orderIndex =
      .signed false (placeOrdinal spacing orderIndex) (placeOrdinal_le _ _) := by
  have hoffset : layout.offset orderIndex =
      .signed false (single.product (single.nearest (orderIndex * single.unitsPerOne) 1) spacing)
        (single.product_le _ _) := by
    rw [offset, h.spacing_eq]
    exact Binary.signed_mul (single.nearest_le _ _) h.finite.le h.pos h.finite
  rw [hoffset, margin_eq, Binary.signed_add _ _ marginOrdinal_lt_infinity]
  rfl

theorem product_index {spacing orderIndex : Nat} (h : orderIndex < 2 ^ 24) :
    single.product (single.nearest (orderIndex * single.unitsPerOne) 1) spacing =
      single.nearest (orderIndex * single.units spacing) 1 := by
  have hunits := single.units_nearest_mul_unitsPerOne (n := orderIndex) (by simpa [single] using h)
    reach_single
  have hfinite : single.nearest (orderIndex * single.unitsPerOne) 1 ≠ single.infinity := by
    intro hinfinite
    rw [hinfinite] at hunits
    have hlt : orderIndex * single.unitsPerOne < 2 ^ 24 * single.unitsPerOne :=
      Nat.mul_lt_mul_of_pos_right h single.unitsPerOne_pos
    exact absurd reach_single (by rw [hunits]; exact Nat.not_le.2 hlt)
  rw [product, if_neg hfinite, hunits, Nat.mul_right_comm]
  exact single.nearest_congr single.unitsPerOne_pos Nat.one_pos (Nat.mul_one _)

theorem placeOrdinal_eq (spacing : Nat) {orderIndex : Nat} (h : orderIndex < 2 ^ 24) :
    placeOrdinal spacing orderIndex =
      single.nearest (40 * single.unitsPerOne +
        single.units (single.nearest (orderIndex * single.units spacing) 1)) 1 := by
  rw [placeOrdinal, product_index h, sum, units_marginOrdinal]

/-! ## Coordinates that are finite -/

theorem nearest_single_lt_infinity_iff (count : Nat) :
    single.nearest count 1 < single.infinity ↔
      count < (2 ^ 128 - 2 ^ 103) * single.unitsPerOne := by
  have hlimit : single.units (single.infinity - 1) + single.units single.infinity =
      2 * ((2 ^ 128 - 2 ^ 103) * single.unitsPerOne) := by decide +kernel
  rw [single.nearest_one_lt_infinity_iff (by decide) (by decide), hlimit]
  omega

/-- The margin carries no finite coordinate beyond the greatest one. -/
theorem placeOrdinal_lt_infinity_iff (spacing : Nat) {orderIndex : Nat} (h : orderIndex < 2 ^ 24) :
    placeOrdinal spacing orderIndex < single.infinity ↔
      orderIndex * single.units spacing < (2 ^ 128 - 2 ^ 103) * single.unitsPerOne := by
  have hlimit : (2 ^ 128 - 2 ^ 103) * single.unitsPerOne ≤ single.units single.infinity := by
    decide +kernel
  have hroom : 40 * single.unitsPerOne + single.units (single.infinity - 1) <
      (2 ^ 128 - 2 ^ 103) * single.unitsPerOne := by decide +kernel
  rw [placeOrdinal_eq spacing h, nearest_single_lt_infinity_iff,
    ← nearest_single_lt_infinity_iff (orderIndex * single.units spacing)]
  generalize single.nearest (orderIndex * single.units spacing) 1 = offset
  constructor
  · intro hsum
    rw [← single.strictMono_units.lt_iff_lt]
    omega
  · intro hoffset
    have hlast := single.strictMono_units.monotone (Nat.le_sub_one_of_lt hoffset)
    omega

/-! ## Coordinates that differ -/

theorem count_le_of_room {spacing count : Nat}
    (hroom : 40 * single.unitsPerOne + 2 * count * single.units spacing ≤
      2 ^ 23 * single.units spacing) : count ≤ 2 ^ 22 := by
  have hone := single.unitsPerOne_pos
  have hpos : 0 < single.units spacing := by
    by_contra hzero
    rw [Nat.eq_zero_of_not_pos hzero] at hroom
    omega
  refine Nat.le_of_mul_le_mul_right ?_ hpos
  rw [Nat.mul_assoc] at hroom
  omega

/-- Two roundings of each coordinate take less than the distance of two cards. -/
theorem placeOrdinal_lt_succ {spacing count orderIndex : Nat}
    (hroom : 40 * single.unitsPerOne + 2 * count * single.units spacing ≤
      2 ^ 23 * single.units spacing)
    (hindex : orderIndex + 1 < count)
    (hfinite : placeOrdinal spacing (orderIndex + 1) < single.infinity) :
    placeOrdinal spacing orderIndex < placeOrdinal spacing (orderIndex + 1) := by
  have hone := single.unitsPerOne_pos
  have hcount := count_le_of_room hroom
  have hproduct : single.nearest ((orderIndex + 1) * single.units spacing) 1 < single.infinity := by
    rw [nearest_single_lt_infinity_iff, ← placeOrdinal_lt_infinity_iff spacing (by omega)]
    exact hfinite
  rw [placeOrdinal_eq spacing (by omega)] at hfinite ⊢
  rw [placeOrdinal_eq spacing (by omega)]
  -- How far the two products may be from the multiples of the distance.
  obtain ⟨hlast, -⟩ := single.units_nearest_one
    ((single.nearest_mono (Nat.mul_le_mul_right _ (Nat.le_succ _)) 1).trans_lt hproduct)
  obtain ⟨hnextAbove, hnextBelow⟩ := single.units_nearest_one hproduct
  apply single.nearest_one_lt hfinite
  have hinside := Nat.mul_le_mul_right (single.units spacing)
    (show orderIndex + 2 ≤ count by omega)
  have hshare : 2 ^ (single.significandBits + 1) = 2 ^ 24 := rfl
  simp only [hshare, Nat.add_mul, Nat.mul_assoc, Nat.one_mul]
    at hroom hinside hlast hnextAbove hnextBelow ⊢
  omega

theorem placeOrdinal_zero (spacing : Nat) : placeOrdinal spacing 0 = marginOrdinal := by
  have hzero : single.nearest 0 1 = 0 := single.nearest_of_underflow (by decide)
  rw [placeOrdinal_eq spacing (by decide), Nat.zero_mul, hzero]
  rfl

/-- A distance is lost in the margin up to half of the margin's last place. -/
theorem placeOrdinal_zero_lt_one_iff {spacing : Nat} (h : spacing ≤ single.infinity) :
    placeOrdinal spacing 0 < placeOrdinal spacing 1 ↔
      single.unitsPerOne < 2 ^ 19 * single.units spacing := by
  have hexact := single.nearest_units_mul h Nat.one_pos
  rw [Nat.mul_one] at hexact
  rw [placeOrdinal_zero, placeOrdinal_eq spacing (by decide), Nat.one_mul, hexact]
  have hhalf : single.nearest (40 * single.unitsPerOne + single.unitsPerOne / 2 ^ 19) 1 =
      marginOrdinal := by decide +kernel
  have hmore : single.nearest (40 * single.unitsPerOne + (single.unitsPerOne / 2 ^ 19 + 1)) 1 =
      marginOrdinal + 1 := by decide +kernel
  have hwhole : 2 ^ 19 * (single.unitsPerOne / 2 ^ 19) = single.unitsPerOne := by decide +kernel
  constructor
  · intro hlt
    by_contra hsmall
    have hmono : single.nearest (40 * single.unitsPerOne + single.units spacing) 1 ≤
        single.nearest (40 * single.unitsPerOne + single.unitsPerOne / 2 ^ 19) 1 :=
      single.nearest_mono (Nat.add_le_add_left (by omega) _) 1
    omega
  · intro hlarge
    have hmono : single.nearest (40 * single.unitsPerOne + (single.unitsPerOne / 2 ^ 19 + 1)) 1 ≤
        single.nearest (40 * single.unitsPerOne + single.units spacing) 1 :=
      single.nearest_mono (Nat.add_le_add_left (by omega) _) 1
    omega

theorem placeOrdinal_rounded (spacing : Nat) :
    placeOrdinal spacing (2 ^ 24 + 1) = placeOrdinal spacing (2 ^ 24) := by
  have hindex : single.nearest ((2 ^ 24 + 1) * single.unitsPerOne) 1 =
      single.nearest (2 ^ 24 * single.unitsPerOne) 1 := by decide +kernel
  rw [placeOrdinal, hindex, placeOrdinal]

/-! ## The cards of a program -/

theorem lookup_node (layout : Layout) {program : Program}
    (h : (program.stages.map Stage.name).Nodup) {index : Nat} {node : GraphNode}
    (hnode : program.graph.nodes[index]? = some node) :
    (layout.positions program.graph).lookup node.id = some (layout.corner index) :=
  layout.lookup_of_getElem? h (by rw [List.getElem?_map, hnode]; rfl)

theorem isFinite_corner_iff (layout : Layout) (orderIndex : Nat) :
    ((layout.corner orderIndex).x.isFinite = true ∧ (layout.corner orderIndex).y.isFinite = true) ↔
      (margin + layout.offset orderIndex).isFinite = true := by
  have hmargin : margin.isFinite = true := by decide
  cases h : layout.orientation <;> simp [corner, h, hmargin]

section Program

variable {layout : Layout} {program : Program} {spacing : Nat} (hspaced : layout.Spaced spacing)
  (hnames : (program.stages.map Stage.name).Nodup)

include hspaced hnames

theorem along_eq {index : Nat} {node : GraphNode} {p : Point}
    (hnode : program.graph.nodes[index]? = some node)
    (hp : (layout.positions program.graph).lookup node.id = some p) :
    layout.along p = .signed false (placeOrdinal spacing index) (placeOrdinal_le _ _) := by
  obtain rfl := Option.some.inj ((layout.lookup_node hnames hnode).symm.trans hp)
  rw [along_corner, hspaced.margin_add_offset]

theorem isFinite_iff {index : Nat} {node : GraphNode} {p : Point}
    (hnode : program.graph.nodes[index]? = some node)
    (hp : (layout.positions program.graph).lookup node.id = some p) :
    (p.x.isFinite = true ∧ p.y.isFinite = true) ↔ placeOrdinal spacing index < single.infinity := by
  obtain rfl := Option.some.inj ((layout.lookup_node hnames hnode).symm.trans hp)
  rw [isFinite_corner_iff, hspaced.margin_add_offset, Binary.isFinite_signed_iff]

theorem keepsOrder : layout.KeepsOrder program.graph := by
  constructor
  · intro node hnode
    obtain ⟨index, hindex⟩ := List.mem_iff_getElem?.1 hnode
    have hp := layout.lookup_node hnames hindex
    refine ⟨_, hp, layout.across_corner index, ?_⟩
    rw [along_eq hspaced hnames hindex hp, margin_eq, Binary.signed_le_iff,
      ← placeOrdinal_zero spacing]
    exact placeOrdinal_mono spacing (Nat.zero_le index)
  · intro i j a b p q hij ha hb hp hq
    rw [along_eq hspaced hnames ha hp, along_eq hspaced hnames hb hq, Binary.signed_le_iff]
    exact placeOrdinal_mono spacing hij

theorem keepsApart_iff :
    layout.KeepsApart program.graph ↔
      (∀ index < program.graph.nodes.length, placeOrdinal spacing index < single.infinity) ∧
        ∀ index, index + 1 < program.graph.nodes.length →
          placeOrdinal spacing index < placeOrdinal spacing (index + 1) := by
  constructor
  · intro hapart
    constructor
    · intro index hindex
      have hnode := List.getElem?_eq_getElem hindex
      have hp := layout.lookup_node hnames hnode
      exact (isFinite_iff hspaced hnames hnode hp).1
        (hapart.finite _ (List.getElem_mem hindex) _ hp)
    · intro index hindex
      have ha := List.getElem?_eq_getElem (Nat.lt_of_succ_lt hindex)
      have hb := List.getElem?_eq_getElem hindex
      have hp := layout.lookup_node hnames ha
      have hq := layout.lookup_node hnames hb
      have hbehind := hapart.behind index _ _ _ _ ha hb hp hq
      rwa [along_eq hspaced hnames ha hp, along_eq hspaced hnames hb hq, Binary.signed_lt_iff]
        at hbehind
  · rintro ⟨hall, hbehind⟩
    constructor
    · intro node hnode p hp
      obtain ⟨index, hindex⟩ := List.mem_iff_getElem?.1 hnode
      obtain ⟨hlt, -⟩ := List.getElem?_eq_some_iff.1 hindex
      exact (isFinite_iff hspaced hnames hindex hp).2 (hall index hlt)
    · intro index a b p q ha hb hp hq
      obtain ⟨hlt, -⟩ := List.getElem?_eq_some_iff.1 hb
      rw [along_eq hspaced hnames ha hp, along_eq hspaced hnames hb hq, Binary.signed_lt_iff]
      exact hbehind index hlt

/-- Where there is room for the cards, they are apart unless the last one is beyond all numbers. -/
theorem keepsApart_iff_of_room
    (hroom : 40 * single.unitsPerOne +
      2 * program.graph.nodes.length * single.units spacing ≤ 2 ^ 23 * single.units spacing) :
    layout.KeepsApart program.graph ↔
      (program.graph.nodes.length - 1) * single.units spacing <
        (2 ^ 128 - 2 ^ 103) * single.unitsPerOne := by
  have hcount := count_le_of_room hroom
  rw [keepsApart_iff hspaced hnames]
  constructor
  · rintro ⟨hall, -⟩
    rcases Nat.eq_zero_or_pos program.graph.nodes.length with hnone | hsome
    · rw [hnone, Nat.zero_sub, Nat.zero_mul]
      decide
    · exact (placeOrdinal_lt_infinity_iff spacing (by omega)).1 (hall _ (by omega))
  · intro hlast
    have hall : ∀ index < program.graph.nodes.length,
        placeOrdinal spacing index < single.infinity := by
      intro index hindex
      rw [placeOrdinal_lt_infinity_iff spacing (by omega)]
      exact (Nat.mul_le_mul_right _ (Nat.le_sub_one_of_lt hindex)).trans_lt hlast
    exact ⟨hall, fun index hindex => placeOrdinal_lt_succ hroom hindex (hall _ hindex)⟩

theorem KeepsApart.bounds (h : layout.KeepsApart program.graph)
    (hmany : 1 < program.graph.nodes.length) :
    single.unitsPerOne < 2 ^ 19 * single.units spacing ∧
      program.graph.nodes.length ≤ 2 ^ 24 + 1 := by
  obtain ⟨-, hbehind⟩ := (keepsApart_iff hspaced hnames).1 h
  refine ⟨(placeOrdinal_zero_lt_one_iff hspaced.finite.le).1 (hbehind 0 hmany), ?_⟩
  by_contra hlong
  exact absurd (hbehind (2 ^ 24) (by omega)) (by rw [placeOrdinal_rounded]; exact lt_irrefl _)

/-- Two cards are apart just when the distance is not lost in the margin. -/
theorem keepsApart_iff_of_two (htwo : program.graph.nodes.length = 2) :
    layout.KeepsApart program.graph ↔
      single.unitsPerOne < 2 ^ 19 * single.units spacing := by
  rw [keepsApart_iff hspaced hnames, htwo, ← placeOrdinal_zero_lt_one_iff hspaced.finite.le]
  constructor
  · rintro ⟨-, hbehind⟩
    exact hbehind 0 (by decide)
  · intro hbehind
    have hsecond : placeOrdinal spacing 1 < single.infinity := by
      rw [placeOrdinal_lt_infinity_iff spacing (by decide), Nat.one_mul]
      exact (single.strictMono_units.monotone (Nat.le_sub_one_of_lt hspaced.finite)).trans_lt
        (by decide +kernel)
    refine ⟨fun index hindex => ?_, fun index hindex => ?_⟩
    · exact (placeOrdinal_mono spacing (Nat.le_of_lt_succ hindex)).trans_lt hsecond
    · obtain rfl : index = 0 := by omega
      exact hbehind

end Program

end Layout

namespace Preferences

/-- With preferences from a file, each card of a decoded document stands at the margin across the
pipeline, and not in front of the margin or of an earlier card along it. Where the distance leaves
room for all cards, they are finite and apart just when the last one is not beyond all numbers. Two
cards are apart just when the distance is not lost in the margin. More of them are not apart without
that either, nor where an index is not a number of the format. -/
theorem cards_of_load {disk : Disk} {path : Path} {preferences : Preferences}
    (hload : load disk path = .ok preferences) (v : Json) (orientation : Orientation) :
    let layout : Layout := ⟨orientation, preferences.layout.spacing⟩
    let graph := (Program.decode v).graph
    let count := graph.nodes.length
    let distance := layout.spacing.inUnits
    let one := single.unitsPerOne
    layout.KeepsOrder graph ∧
      (40 * one + 2 * count * distance ≤ 2 ^ 23 * distance →
        (layout.KeepsApart graph ↔ (count - 1) * distance < (2 ^ 128 - 2 ^ 103) * one)) ∧
      (count = 2 → (layout.KeepsApart graph ↔ one < 2 ^ 19 * distance)) ∧
      (1 < count → layout.KeepsApart graph → one < 2 ^ 19 * distance ∧ count ≤ 2 ^ 24 + 1) := by
  intro layout graph count distance one
  have hrange := inRange_of_load hload
  obtain ⟨spacing, hle, hpos, hfinite, heq⟩ :=
    Binary.exists_eq_signed_of_pos hrange.spacing_finite hrange.spacing_pos
  have hspaced : layout.Spaced spacing := ⟨hpos, hfinite, heq⟩
  have hdistance : distance = single.units spacing := congrArg Binary.inUnits hspaced.spacing_eq
  have hnames := Program.nodup_names_decode v
  rw [hdistance]
  exact ⟨Layout.keepsOrder hspaced hnames, Layout.keepsApart_iff_of_room hspaced hnames,
    Layout.keepsApart_iff_of_two hspaced hnames,
    fun hmany hapart => hapart.bounds hspaced hnames hmany⟩

/-- Half a point is far enough for two cards. -/
theorem cards_of_load_close :
    let v : Json := .obj [("emit", .obj [("type", .str "deparser")]), ("start", .null)]
    let close : Preferences := { standard with layout := ⟨.horizontal, .ofRatio false 1 2⟩ }
    load (diskWith "layout.orientation = \"horizontal\"\nlayout.stage_spacing = 0.5\n")
        "config.toml" = .ok close ∧
      close.layout.KeepsApart (Program.decode v).graph := by
  intro v close
  have hload : load (diskWith
      "layout.orientation = \"horizontal\"\nlayout.stage_spacing = 0.5\n") "config.toml" =
      .ok close := load_diskWith (by decide +kernel)
  have hcount : (Program.decode v).graph.nodes.length = 2 := by
    rw [Program.length_nodes, Program.descriptors, Stage.inOrder_eq_flatten_groups]
    decide +kernel
  obtain ⟨-, hroom, -, -⟩ := cards_of_load hload v .horizontal
  rw [hcount] at hroom
  exact ⟨hload, (hroom (by decide +kernel)).2 (by decide +kernel)⟩

/-- A distance that is lost in the margin, so that all cards stand in one place, and one whose
double is beyond all numbers. -/
theorem cards_of_load_extreme :
    let v : Json := .obj [("emit", .obj [("type", .str "deparser")]),
      ("work", .obj [("type", .str "control")]), ("start", .obj [("type", .str "parser")])]
    let graph := (Program.decode v).graph
    let near : Preferences :=
      { standard with layout := ⟨.vertical, .ofRatio false 1 (10 ^ 30)⟩ }
    let far : Preferences :=
      { standard with layout := ⟨.vertical, .ofRatio false (3 * 10 ^ 38) 1⟩ }
    (load (diskWith "layout.stage_spacing = 1e-30\n") "config.toml" = .ok near ∧
      near.layout.positions graph =
        [(⟨"start"⟩, ⟨40, 40⟩), (⟨"work"⟩, ⟨40, 40⟩), (⟨"emit"⟩, ⟨40, 40⟩)] ∧
      ¬ near.layout.KeepsApart graph) ∧
    load (diskWith "layout.stage_spacing = 3e38\n") "config.toml" = .ok far ∧
      (far.layout.positions graph).lookup ⟨"emit"⟩ = some ⟨40, .infinite false⟩ ∧
      ¬ far.layout.KeepsApart graph := by
  intro v graph near far
  have hnodes : graph.nodes = [⟨⟨"start"⟩, "start", .parser, 0, ⟨0, 0, 0, 0, 0⟩⟩,
      ⟨⟨"work"⟩, "work", .control, 1, ⟨0, 0, 0, 0, 0⟩⟩,
      ⟨⟨"emit"⟩, "emit", .deparser, 2, ⟨0, 0, 0, 0, 0⟩⟩] := by
    change (Program.decode v).graph.nodes = _
    rw [Program.graph, PipelineGraph.build, Program.descriptors, Stage.inOrder_eq_flatten_groups]
    decide +kernel
  have hnear : near.layout.positions graph =
      [(⟨"start"⟩, ⟨40, 40⟩), (⟨"work"⟩, ⟨40, 40⟩), (⟨"emit"⟩, ⟨40, 40⟩)] := by
    rw [Layout.positions, hnodes]
    decide +kernel
  have hfar : (far.layout.positions graph).lookup ⟨"emit"⟩ = some ⟨40, .infinite false⟩ := by
    rw [Layout.positions, hnodes]
    decide +kernel
  refine ⟨⟨load_diskWith (by decide +kernel), hnear, fun hapart => ?_⟩,
    load_diskWith (by decide +kernel), hfar, fun hapart => ?_⟩
  · have hbehind := hapart.behind 0 _ _ ⟨40, 40⟩ ⟨40, 40⟩ (by rw [hnodes]; rfl)
      (by rw [hnodes]; rfl) (by rw [hnear]; decide) (by rw [hnear]; decide)
    exact absurd hbehind (by decide +kernel)
  · have hfinite := hapart.finite _ (by rw [hnodes]; exact List.getElem_mem (Nat.lt_succ_self 2)) _
      hfar
    exact absurd hfinite (by decide +kernel)

end Preferences

end StageAtlas
