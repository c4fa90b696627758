import StageAtlas.Proofs.History
import StageAtlas.Proofs.View.Requests

/-! # What a click on the canvas asks for

Cards are gone through in the order of the graph, and a card that holds the point takes the place of
what was found before it. So the last card counts. Only a click that finds no card may reset the
viewport or drop the selection.
-/

namespace StageAtlas.Canvas

/-! ## The card at a point -/

section Placed

variable (positions : List (StageId × Point)) (viewport : Viewport) (bounds : Rect) (p : Point)

/-- The card of a node holds a point, and touches the canvas. -/
def Holds (node : GraphNode) : Prop :=
  ∃ corner, positions.lookup node.id = some corner ∧
    bounds.intersects (viewport.card bounds corner) = true ∧
    (viewport.card bounds corner).contains p = true

def stageAt? (node : GraphNode) : Option StageId :=
  (card? positions viewport bounds node).bind fun card =>
    if card.area.contains p then some card.node.id else none

variable {positions viewport bounds p}

theorem stageAt?_eq_some_iff {node : GraphNode} {id : StageId} :
    stageAt? positions viewport bounds p node = some id ↔
      Holds positions viewport bounds p node ∧ node.id = id := by
  constructor
  · intro h
    obtain ⟨card, hcard, h⟩ := Option.bind_eq_some_iff.1 h
    obtain ⟨corner, hcorner, htouch, rfl⟩ := card?_eq_some_iff.1 hcard
    simp only [Option.ite_none_right_eq_some, Option.some.injEq] at h
    exact ⟨⟨corner, hcorner, htouch, h.1⟩, h.2⟩
  · rintro ⟨⟨corner, hcorner, htouch, hcontains⟩, rfl⟩
    have hcard : card? positions viewport bounds node = some ⟨node, viewport.card bounds corner⟩ :=
      card?_eq_some_iff.2 ⟨corner, hcorner, htouch, rfl⟩
    simp [stageAt?, hcard, hcontains]

theorem stageAt?_eq_none_iff {node : GraphNode} :
    stageAt? positions viewport bounds p node = none ↔
      ¬ Holds positions viewport bounds p node := by
  rw [Option.eq_none_iff_forall_ne_some]
  simp [stageAt?_eq_some_iff]

/-- Going through the cards finds what the latest of them decides. -/
theorem cardAt?_eq_latest? (nodes : List GraphNode) :
    cardAt? (nodes.filterMap (card? positions viewport bounds)) p =
      History.latest? (stageAt? positions viewport bounds p) nodes := by
  induction nodes using List.reverseRecOn with
  | nil => rfl
  | append_singleton nodes node ih =>
      rw [List.filterMap_append, History.latest?_concat, ← ih]
      cases hcard : card? positions viewport bounds node with
      | none => simp [stageAt?, hcard]
      | some card =>
          rw [List.filterMap_cons_some hcard, List.filterMap_nil, cardAt?_concat, stageAt?, hcard,
            Option.bind_some]
          split <;> rfl

end Placed

section Shown

variable (graph : PipelineGraph) (layout : Layout) (viewport : Viewport) (bounds : Rect)

/-- A node is the last one of the graph whose card holds a point. -/
def Uppermost (p : Point) (node : GraphNode) : Prop :=
  ∃ before after, graph.nodes = before ++ node :: after ∧
    Holds (layout.positions graph) viewport bounds p node ∧
    ∀ other ∈ after, ¬ Holds (layout.positions graph) viewport bounds p other

def OnCard (click : Click) : Prop :=
  ∃ p, click.tip = some p ∧
    ∃ node ∈ graph.nodes, Holds (layout.positions graph) viewport bounds p node

/-- What may be asked for after a click, or without one. -/
inductive Reply (selected : Option StageId) : Option Click → List Request → Prop where
  | card {click : Click} {p : Point} {node : GraphNode} (htip : click.tip = some p)
      (hnode : Uppermost graph layout viewport bounds p node) :
      Reply selected (some click) [.explore (.selectStage node.id)]
  | reset {click : Click} (hbeside : ¬ OnCard graph layout viewport bounds click)
      (htwice : click.twice = true) : Reply selected (some click) [.resetCanvas]
  | clear {click : Click} (hbeside : ¬ OnCard graph layout viewport bounds click)
      (honce : click.twice = false) (hselected : selected.isSome) :
      Reply selected (some click) [.explore .clearSelection]
  | idle {click : Click} (hbeside : ¬ OnCard graph layout viewport bounds click)
      (honce : click.twice = false) (hselected : selected = none) :
      Reply selected (some click) []
  | still : Reply selected none []

variable {graph layout viewport bounds} {selected : Option StageId}

theorem cardAt?_cards_eq_some_iff {p : Point} {id : StageId} :
    cardAt? (Canvas.cards graph layout viewport bounds) p = some id ↔
      ∃ node, Uppermost graph layout viewport bounds p node ∧ node.id = id := by
  rw [Canvas.cards, cardAt?_eq_latest?, History.latest?_eq_some_iff]
  simp only [stageAt?_eq_some_iff, stageAt?_eq_none_iff]
  constructor
  · rintro ⟨before, node, after, hsplit, ⟨hnode, hid⟩, hafter⟩
    exact ⟨node, ⟨before, after, hsplit, hnode, hafter⟩, hid⟩
  · rintro ⟨node, ⟨before, after, hsplit, hnode, hafter⟩, hid⟩
    exact ⟨before, node, after, hsplit, ⟨hnode, hid⟩, hafter⟩

theorem cardAt?_cards_eq_none_iff {p : Point} :
    cardAt? (Canvas.cards graph layout viewport bounds) p = none ↔
      ∀ node ∈ graph.nodes, ¬ Holds (layout.positions graph) viewport bounds p node := by
  rw [Canvas.cards, cardAt?_eq_latest?, History.latest?_eq_none_iff]
  simp only [stageAt?_eq_none_iff]

theorem found_eq_none_iff {click : Click} :
    (click.tip.bind (cardAt? (Canvas.cards graph layout viewport bounds))) = none ↔
      ¬ OnCard graph layout viewport bounds click := by
  cases htip : click.tip with
  | none => simp [OnCard, htip]
  | some p => simp [OnCard, htip, cardAt?_cards_eq_none_iff]

theorem Uppermost.onCard {click : Click} {p : Point} {node : GraphNode} (htip : click.tip = some p)
    (h : Uppermost graph layout viewport bounds p node) :
    OnCard graph layout viewport bounds click := by
  obtain ⟨before, after, hsplit, hnode, -⟩ := h
  exact ⟨p, htip, node, by simp [hsplit], hnode⟩

/-! ## The reply -/

theorem reply_requests (click : Option Click) :
    Reply graph layout viewport bounds selected click
      (requests (Canvas.cards graph layout viewport bounds) selected click) := by
  cases click with
  | none => exact .still
  | some click =>
      cases hfound : click.tip.bind (cardAt? (Canvas.cards graph layout viewport bounds)) with
      | some id =>
          obtain ⟨p, htip, hcard⟩ := Option.bind_eq_some_iff.1 hfound
          obtain ⟨node, hnode, rfl⟩ := cardAt?_cards_eq_some_iff.1 hcard
          simpa [requests, hfound] using Reply.card htip hnode
      | none =>
          have hbeside := found_eq_none_iff.1 hfound
          cases htwice : click.twice with
          | true => simpa [requests, hfound, htwice] using Reply.reset hbeside htwice
          | false =>
              cases hselected : selected with
              | none => simpa [requests, hfound, htwice] using Reply.idle hbeside htwice rfl
              | some id => simpa [requests, hfound, htwice] using Reply.clear hbeside htwice rfl

/-- There is no other reply. -/
theorem Reply.eq_requests {click : Option Click} {replies : List Request}
    (h : Reply graph layout viewport bounds selected click replies) :
    requests (Canvas.cards graph layout viewport bounds) selected click = replies := by
  cases h with
  | card htip hnode =>
      have hcard := cardAt?_cards_eq_some_iff.2 ⟨_, hnode, rfl⟩
      simp [requests, htip, hcard]
  | reset hbeside htwice => simp [requests, found_eq_none_iff.2 hbeside, htwice]
  | clear hbeside honce hselected =>
      simp [requests, found_eq_none_iff.2 hbeside, honce, hselected]
  | idle hbeside honce hselected =>
      simp [requests, found_eq_none_iff.2 hbeside, honce, hselected]
  | still => rfl

theorem Reply.length_le {click : Option Click} {replies : List Request}
    (h : Reply graph layout viewport bounds selected click replies) : replies.length ≤ 1 := by
  cases h <;> simp

theorem Reply.of_onCard {click : Click} {replies : List Request}
    (h : Reply graph layout viewport bounds selected (some click) replies)
    (hcard : OnCard graph layout viewport bounds click) :
    ∃ id, replies = [.explore (.selectStage id)] := by
  cases h with
  | card => exact ⟨_, rfl⟩
  | reset hbeside => exact (hbeside hcard).elim
  | clear hbeside => exact (hbeside hcard).elim
  | idle hbeside => exact (hbeside hcard).elim

end Shown

/-- However the pipeline is laid out, moved and zoomed, and whatever the pointer does: what a frame
asks for is the one reply to its click, and after a click on a card that is the stage of a card. -/
theorem requests_of_click (viewport : Viewport) (graph : PipelineGraph) (selected : Option StageId)
    (layout : Layout) (bounds : Rect) (input : PointerInput) :
    let shown := viewport.follow bounds input
    let asked := (frame viewport graph selected layout bounds input).requests
    let click := input.clickOn bounds
    (∀ replies, Reply graph layout shown bounds selected click replies ↔ asked = replies) ∧
      asked.length ≤ 1 ∧
      ∀ c, click = some c → OnCard graph layout shown bounds c →
        ∃ id, asked = [.explore (.selectStage id)] := by
  intro shown asked click
  have hreply : Reply graph layout shown bounds selected click asked := reply_requests click
  refine ⟨fun replies => ⟨Reply.eq_requests, fun h => h ▸ hreply⟩, hreply.length_le, ?_⟩
  intro c hclick hcard
  rw [hclick] at hreply
  exact hreply.of_onCard hcard

/-- A double click where two cards overlap, while a stage is selected. -/
theorem requests_of_click_overlapping :
    let below : GraphNode := ⟨⟨"in"⟩, "in", .parser, 0, ⟨0, 0, 1, 0, 0⟩⟩
    let above : GraphNode := ⟨⟨"out"⟩, "out", .control, 1, ⟨2, 3, 0, 0, 0⟩⟩
    let graph : PipelineGraph := ⟨[below, above], [.between below.id above.id]⟩
    let layout : Layout := ⟨.vertical, 1⟩
    let bounds : Rect := .ofSize .zero ⟨800, 600⟩
    let shown := Viewport.standard.follow bounds (.clicking ⟨60, 60⟩ true)
    let asked := (frame .standard graph (some below.id) layout bounds
      (.clicking ⟨60, 60⟩ true)).requests
    Holds (layout.positions graph) shown bounds ⟨60, 60⟩ below ∧
      OnCard graph layout shown bounds ⟨some ⟨60, 60⟩, some ⟨60, 60⟩, true⟩ ∧
      (∃ id, asked = [.explore (.selectStage id)]) ∧
      asked = [.explore (.selectStage above.id)] := by
  intro below above graph layout bounds shown asked
  have hbelow : Holds (layout.positions graph) shown bounds ⟨60, 60⟩ below :=
    ⟨⟨40, 40⟩, by decide +kernel, by decide +kernel, by decide +kernel⟩
  have habove : Holds (layout.positions graph) shown bounds ⟨60, 60⟩ above :=
    ⟨⟨40, 41⟩, by decide +kernel, by decide +kernel, by decide +kernel⟩
  have hlast : Uppermost graph layout shown bounds ⟨60, 60⟩ above :=
    ⟨[below], [], rfl, habove, by simp⟩
  have hcard : OnCard graph layout shown bounds ⟨some ⟨60, 60⟩, some ⟨60, 60⟩, true⟩ :=
    hlast.onCard rfl
  have hclick : (PointerInput.clicking ⟨60, 60⟩ true).clickOn bounds =
      some ⟨some ⟨60, 60⟩, some ⟨60, 60⟩, true⟩ := rfl
  obtain ⟨hreply, -, honly⟩ := requests_of_click .standard graph (some below.id) layout bounds
    (.clicking ⟨60, 60⟩ true)
  refine ⟨hbelow, hcard, honly _ hclick hcard, (hreply _).1 ?_⟩
  rw [hclick]
  exact .card rfl hlast

end StageAtlas.Canvas
