import StageAtlas.Pipeline.Descriptor

/-!
# Exploring a program

What is looked at: the pipeline or the overview, one selected stage at most, the tab of its detail
panel and whether the panel is open. A request that makes no sense at the moment changes nothing.
-/

namespace StageAtlas

inductive DetailTab where
  | deepDive
  | tables
  | actions
  | flow
  deriving DecidableEq, Repr

namespace DetailTab

def all : List DetailTab := [deepDive, tables, actions, flow]

def title : DetailTab → String
  | deepDive => "Deep Dive"
  | tables => "Tables"
  | actions => "Actions"
  | flow => "Flow"

end DetailTab

inductive ViewMode where
  | pipeline
  | overview
  deriving DecidableEq, Repr

namespace ViewMode

def all : List ViewMode := [pipeline, overview]

def title : ViewMode → String
  | pipeline => "Pipeline"
  | overview => "Overview"

end ViewMode

structure Explorer where
  mode : ViewMode
  selected : Option StageId
  tab : DetailTab
  panelOpen : Bool
  deriving DecidableEq, Repr

inductive ExplorerAction where
  | selectStage (id : StageId)
  | clearSelection
  | closePanel
  | setTab (tab : DetailTab)
  | setMode (mode : ViewMode)
  deriving DecidableEq, Repr

namespace Explorer

def initial : Explorer := ⟨.pipeline, none, .deepDive, false⟩

instance : Inhabited Explorer := ⟨initial⟩

def detailVisible (explorer : Explorer) : Bool :=
  explorer.panelOpen && explorer.selected.isSome && explorer.mode == .pipeline

def knows (stages : List StageDescriptor) (id : StageId) : Bool := stages.any (·.id == id)

/-- The next state, and whether it differs from the one before. -/
def become (explorer next : Explorer) : Explorer × Bool := (next, next != explorer)

/-- The state after a request, given the stages that are there, and whether it changed. Selecting a
stage shows the pipeline and opens the panel; the overview has no selection. A stage that is not
there, and a tab while no stage is selected, are refused before anything is compared. -/
def dispatch (explorer : Explorer) (action : ExplorerAction) (stages : List StageDescriptor) :
    Explorer × Bool :=
  match action with
  | .selectStage id =>
      if knows stages id then
        explorer.become { explorer with mode := .pipeline, selected := some id, panelOpen := true }
      else (explorer, false)
  | .clearSelection => explorer.become { explorer with selected := none, panelOpen := false }
  | .closePanel => explorer.become { explorer with panelOpen := false }
  | .setTab tab =>
      if explorer.selected.isSome then explorer.become { explorer with tab } else (explorer, false)
  | .setMode .pipeline => explorer.become { explorer with mode := .pipeline }
  | .setMode .overview =>
      explorer.become { explorer with mode := .overview, selected := none, panelOpen := false }

def apply (explorer : Explorer) (stages : List StageDescriptor) (action : ExplorerAction) :
    Explorer :=
  (explorer.dispatch action stages).1

theorem fst_dispatch (explorer : Explorer) (action : ExplorerAction)
    (stages : List StageDescriptor) :
    (explorer.dispatch action stages).1 = explorer.apply stages action :=
  rfl

theorem apply_selectStage (explorer : Explorer) (stages : List StageDescriptor) (id : StageId) :
    explorer.apply stages (.selectStage id) =
      if knows stages id then
        { explorer with mode := .pipeline, selected := some id, panelOpen := true }
      else explorer := by
  rw [apply, dispatch]
  split <;> rfl

theorem apply_setTab (explorer : Explorer) (stages : List StageDescriptor) (tab : DetailTab) :
    explorer.apply stages (.setTab tab) =
      if explorer.selected.isSome then { explorer with tab } else explorer := by
  rw [apply, dispatch]
  split <;> rfl

theorem become_self (explorer : Explorer) : explorer.become explorer = (explorer, false) := by
  simp [become]

/-- A request that is refused reports what a comparison would report. -/
theorem dispatch_eq (explorer : Explorer) (action : ExplorerAction)
    (stages : List StageDescriptor) :
    explorer.dispatch action stages = explorer.become (explorer.apply stages action) := by
  cases action with
  | selectStage id =>
      rw [apply_selectStage, dispatch]
      split
      · rfl
      · rw [become_self]
  | setTab tab =>
      rw [apply_setTab, dispatch]
      split
      · rfl
      · rw [become_self]
  | clearSelection | closePanel => rfl
  | setMode mode => cases mode <;> rfl

def selectStage (explorer : Explorer) (id : StageId) (stages : List StageDescriptor) :
    Explorer × Bool :=
  explorer.dispatch (.selectStage id) stages

/-! Only selecting a stage asks which stages are there, so the others are requested with none. -/

def clearSelection (explorer : Explorer) : Explorer × Bool := explorer.dispatch .clearSelection []

def setTab (explorer : Explorer) (tab : DetailTab) : Explorer × Bool :=
  explorer.dispatch (.setTab tab) []

def setMode (explorer : Explorer) (mode : ViewMode) : Explorer × Bool :=
  explorer.dispatch (.setMode mode) []

def run (explorer : Explorer) (steps : List (ExplorerAction × List StageDescriptor)) : Explorer :=
  steps.foldl (fun state step => state.apply step.2 step.1) explorer

@[simp] theorem run_nil (explorer : Explorer) : explorer.run [] = explorer := rfl

@[simp] theorem run_cons (explorer : Explorer) (step : ExplorerAction × List StageDescriptor)
    (steps : List (ExplorerAction × List StageDescriptor)) :
    explorer.run (step :: steps) = (explorer.apply step.2 step.1).run steps := rfl

theorem run_append (explorer : Explorer)
    (first second : List (ExplorerAction × List StageDescriptor)) :
    explorer.run (first ++ second) = (explorer.run first).run second :=
  List.foldl_append

end Explorer

end StageAtlas
