import Mathlib.Data.List.Infix
import StageAtlas.Explorer.State
import StageAtlas.Proofs.History

/-! # Which request decides what

Each part of the explorer is as the latest request left it that had a say in it. Whether a request
has a say depends on its moment: on the stages that were there, and for a tab on the selection.
-/

namespace StageAtlas.Explorer

open History

abbrev Step := ExplorerAction × List StageDescriptor

def selection? : Step → Option (Option StageId)
  | (.selectStage id, stages) => if knows stages id then some (some id) else none
  | (.clearSelection, _) => some none
  | (.setMode .overview, _) => some none
  | _ => none

def panel? : Step → Option Bool
  | (.selectStage id, stages) => if knows stages id then some true else none
  | (.clearSelection, _) => some false
  | (.closePanel, _) => some false
  | (.setMode .overview, _) => some false
  | _ => none

def mode? : Step → Option ViewMode
  | (.selectStage id, stages) => if knows stages id then some .pipeline else none
  | (.setMode mode, _) => some mode
  | _ => none

def tab? (selected : Option StageId) : Step → Option DetailTab
  | (.setTab tab, _) => if selected.isSome then some tab else none
  | _ => none

/-- What the last of some requests decides about the tab, with the stage that those before it left
selected. -/
def lastTab? (steps : List Step) : Option DetailTab :=
  steps.getLast?.bind (tab? ((latest? selection? steps.dropLast).getD none))

theorem apply_eq (explorer : Explorer) (stages : List StageDescriptor) (action : ExplorerAction) :
    explorer.apply stages action =
      { mode := (mode? (action, stages)).getD explorer.mode
        selected := (selection? (action, stages)).getD explorer.selected
        tab := (tab? explorer.selected (action, stages)).getD explorer.tab
        panelOpen := (panel? (action, stages)).getD explorer.panelOpen } := by
  cases action with
  | selectStage id =>
      by_cases hid : knows stages id <;>
        simp [apply_selectStage, mode?, selection?, tab?, panel?, hid]
  | clearSelection => rfl
  | closePanel => rfl
  | setTab tab =>
      by_cases hselected : explorer.selected.isSome <;>
        simp [apply_setTab, mode?, selection?, tab?, panel?, hselected]
  | setMode mode => cases mode <;> rfl

/-! ## A run of requests -/

theorem lastTab?_concat (steps : List Step) (step : Step) :
    lastTab? (steps ++ [step]) = tab? ((latest? selection? steps).getD none) step := by
  rw [lastTab?, List.getLast?_concat, List.dropLast_concat, Option.bind_some]

theorem latest?_lastTab?_concat (steps : List Step) (step : Step) :
    (latest? lastTab? (steps ++ [step]).inits).getD .deepDive =
      (tab? ((latest? selection? steps).getD none) step).getD
        ((latest? lastTab? steps.inits).getD .deepDive) := by
  have hinits : (steps ++ [step]).inits = steps.inits ++ [steps ++ [step]] := by
    simp [List.inits_append]
  rw [hinits, getD_latest?_concat, lastTab?_concat]

/-- The explorer after any requests, each with stages of its own: every part is as the latest
request decided it that could. -/
theorem foldl_dispatch_initial (steps : List Step) :
    steps.foldl (fun explorer step => (explorer.dispatch step.1 step.2).1) initial =
      { mode := (latest? mode? steps).getD .pipeline
        selected := (latest? selection? steps).getD none
        tab := (latest? lastTab? steps.inits).getD .deepDive
        panelOpen := (latest? panel? steps).getD false } := by
  induction steps using List.reverseRecOn with
  | nil => rfl
  | append_singleton steps step ih =>
      rw [List.foldl_concat, ih, fst_dispatch, apply_eq]
      simp only [getD_latest?_concat, latest?_lastTab?_concat]

end StageAtlas.Explorer
