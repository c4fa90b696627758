import Mathlib.Data.List.Induction
import StageAtlas.View.Canvas.Frame
import StageAtlas.View.MenuBar
import StageAtlas.View.OverviewPage
import StageAtlas.View.StatusBar

/-! # What each view asks for

Most labels only tell something. For each view the requests of the others are listed here, in the
order of its labels; the canvas asks for one thing at most.
-/

namespace StageAtlas

namespace Label

@[simp] theorem requests_nil : requests [] = [] := rfl

@[simp] theorem requests_append (first second : List Label) :
    requests (first ++ second) = requests first ++ requests second := List.filterMap_append

@[simp] theorem requests_plain (text : String) (rest : List Label) :
    requests (plain text :: rest) = requests rest := rfl

@[simp] theorem requests_telling (text hint : String) (rest : List Label) :
    requests (telling text hint :: rest) = requests rest := rfl

@[simp] theorem requests_asking (text : String) (request : Request) (rest : List Label) :
    requests (asking text request :: rest) = request :: requests rest := rfl

@[simp] theorem requests_exploring (text : String) (action : ExplorerAction) (rest : List Label) :
    requests (exploring text action :: rest) = .explore action :: requests rest := rfl

@[simp] theorem requests_withHint (label : Label) (hint : String) (rest : List Label) :
    requests (label.withHint hint :: rest) = requests (label :: rest) := rfl

@[simp] theorem requests_fold (text : String) (part : Fold) (hint : List String)
    (rest : List Label) : requests (⟨text, .fold part, hint⟩ :: rest) = requests rest := rfl

@[simp] theorem requests_menu (text : String) (menu : Menu) (hint : List String)
    (rest : List Label) : requests (⟨text, .menu menu, hint⟩ :: rest) = requests rest := rfl

theorem requests_flatMap {α : Type} (l : List α) (f : α → List Label) :
    requests (l.flatMap f) = l.flatMap fun a => requests (f a) := List.filterMap_flatMap

theorem requests_flatMap_eq_nil {α : Type} {l : List α} {f : α → List Label}
    (h : ∀ a, requests (f a) = []) : requests (l.flatMap f) = [] := by
  simp [requests_flatMap, h]

@[simp] theorem requests_map_plain {α : Type} (l : List α) (text : α → String) :
    requests (l.map fun a => plain (text a)) = [] := by
  rw [List.map_eq_flatMap]
  exact requests_flatMap_eq_nil fun a => requests_plain (text a) []

@[simp] theorem requests_plains (texts : List String) : requests (texts.map plain) = [] :=
  requests_map_plain texts id

theorem mem_requests_iff {labels : List Label} {request : Request} :
    request ∈ requests labels ↔ ∃ label ∈ labels, label.reaction = .ask request := by
  simp only [requests, List.mem_filterMap]
  refine exists_congr fun label => and_congr_right fun _ => ?_
  cases label.reaction <;> simp

end Label

open Label

/-! ## The detail panel -/

namespace DetailPanel

theorem requests_foldable (folds : Folds) (part : Fold) (title : String) {body : List Label}
    (h : requests body = []) : requests (foldable folds part title body) = [] := by
  rw [foldable, requests_fold]
  split
  · exact h
  · rfl

theorem requests_titled (title : String) {body : List Label} (h : requests body = []) :
    requests (titled title body) = [] := by
  rw [titled]
  split
  · rfl
  · rw [requests_plain, h]

theorem requests_headerPart (folds : Folds) (header : Header) :
    requests (headerPart folds header) = [] :=
  requests_foldable _ _ _ (requests_flatMap_eq_nil fun _ => rfl)

theorem requests_headersPart (folds : Folds) (headers : List Header) :
    requests (headersPart folds headers) = [] := by
  apply requests_foldable
  split
  · rfl
  · exact requests_flatMap_eq_nil (requests_headerPart folds)

theorem requests_externsPart (folds : Folds) (externs : List ExternObject) :
    requests (externsPart folds externs) = [] := by
  apply requests_foldable
  split
  · rfl
  · exact requests_map_plain _ _

theorem requests_deepDive (folds : Folds) (view : DeepDive) :
    requests (deepDive folds view) = [] := by
  simp [deepDive, requests_titled, requests_headersPart, requests_externsPart]

theorem requests_namedList (name : String) (items : List String) :
    requests (namedList name items) = [] := by
  rw [namedList, requests_plain]
  split
  · rfl
  · exact requests_plains items

theorem requests_tableCard (card : TableCard) : requests (tableCard card) = [] := by
  simp [tableCard, requests_namedList]

theorem requests_content (folds : Folds) (detail : DetailView) :
    requests (content folds detail) = [] := by
  cases detail with
  | deepDive view => exact requests_deepDive folds view
  | tables cards =>
      rw [content, tables]
      split
      · rfl
      · exact requests_flatMap_eq_nil requests_tableCard
  | actions cards =>
      rw [content, actions]
      split
      · rfl
      · exact requests_flatMap_eq_nil fun card => by simp [actionCard]
  | flow view =>
      cases view with
      | steps list => exact requests_flatMap_eq_nil fun _ => rfl
      | noExplicitFlow => rfl

theorem requests_tabs (active : DetailTab) :
    requests (tabs active) =
      (DetailTab.all.filter (· ≠ active)).map fun tab => .explore (.setTab tab) := by
  cases active <;> rfl

/-- The panel asks to be closed, for no selection, and for each tab but the active one. -/
theorem requests_view (folds : Folds) (stage : StageDescriptor) (detail : DetailView) :
    requests (view folds stage detail) =
      .explore .closePanel :: .explore .clearSelection ::
        (DetailTab.all.filter (· ≠ detail.tab)).map fun tab => .explore (.setTab tab) := by
  simp [view, heading, badges, badge, requests_tabs, requests_content]

end DetailPanel

/-! ## The other labels -/

theorem OverviewPage.requests_view (title time : String) (overview : Overview)
    (stages : List StageDescriptor) :
    requests (view title time overview stages) =
      stages.map fun stage => .explore (.selectStage stage.id) := by
  simp [view, cards, card, row, requests_flatMap, List.map_eq_flatMap]

theorem StatusBar.requests_view (content : Content) :
    requests (view content) = if content.lastError.isSome then [.dismissError] else [] := by
  cases h : content.lastError <;> simp [view, apply_ite requests, h]

theorem MenuBar.requests_bar (program : Option String) : requests (bar program) = [] := by
  simp [bar]

/-- Of the explorer, the menus ask only for a mode. -/
theorem MenuBar.requests_items (loaded darkMode : Bool) (menu : Menu) :
    requests (items loaded darkMode menu) =
      match menu with
      | .file => .chooseFile :: if loaded then [.closeProgram] else []
      | .view => (ViewMode.all.map fun mode => .explore (.setMode mode)) ++
          (Orientation.all.map .setOrientation) ++ [.resetCanvas, .setDarkMode !darkMode] := by
  cases menu with
  | file => cases loaded <;> rfl
  | view => rfl

/-! ## The canvas -/

namespace Canvas

variable {cards : List Card} {selected : Option StageId} {click : Option Click}
  {action : ExplorerAction}

theorem cardAt?_concat (cards : List Card) (card : Card) (p : Point) :
    cardAt? (cards ++ [card]) p =
      if card.area.contains p then some card.node.id else cardAt? cards p := by
  rw [cardAt?, List.foldl_append]
  rfl

theorem exists_card_of_cardAt? {p : Point} {id : StageId} (h : cardAt? cards p = some id) :
    ∃ card ∈ cards, card.node.id = id := by
  induction cards using List.reverseRecOn with
  | nil => cases h
  | append_singleton cards card ih =>
      rw [cardAt?_concat] at h
      split at h
      · exact ⟨card, by simp, Option.some.inj h⟩
      · obtain ⟨other, hother, hid⟩ := ih h
        exact ⟨other, List.mem_append_left _ hother, hid⟩

/-- Of the explorer, the canvas asks for the stage of a card, or to drop the selection it has. -/
theorem explore_of_mem_requests (h : .explore action ∈ requests cards selected click) :
    (∃ card ∈ cards, action = .selectStage card.node.id) ∨
      action = .clearSelection ∧ selected.isSome := by
  unfold requests at h
  split at h
  · rename_i id hid
    obtain ⟨p, -, hcard⟩ := Option.bind_eq_some_iff.1 hid
    obtain ⟨card, hmem, rfl⟩ := exists_card_of_cardAt? hcard
    exact .inl ⟨card, hmem, by simpa using h⟩
  · split at h
    · simp at h
    · split at h
      · rename_i hselected
        exact .inr ⟨by simpa using h, (Bool.and_eq_true_iff.1 hselected).2⟩
      · cases h

theorem card?_eq_some_iff {positions : List (StageId × Point)} {viewport : Viewport} {bounds : Rect}
    {node : GraphNode} {card : Card} :
    card? positions viewport bounds node = some card ↔
      ∃ corner, positions.lookup node.id = some corner ∧
        bounds.intersects (viewport.card bounds corner) = true ∧
        card = ⟨node, viewport.card bounds corner⟩ := by
  cases hcorner : positions.lookup node.id with
  | none => simp [card?, hcorner]
  | some corner =>
      simp only [card?, hcorner, Option.ite_none_right_eq_some, Option.some.injEq,
        exists_eq_left', eq_comm (a := card)]

theorem node_mem_of_mem_cards {graph : PipelineGraph} {layout : Layout} {viewport : Viewport}
    {bounds : Rect} {card : Card} (h : card ∈ Canvas.cards graph layout viewport bounds) :
    card.node ∈ graph.nodes := by
  obtain ⟨node, hnode, hcard⟩ := List.mem_filterMap.1 h
  obtain ⟨corner, -, -, rfl⟩ := card?_eq_some_iff.1 hcard
  exact hnode

end Canvas

end StageAtlas
