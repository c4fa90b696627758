import StageAtlas.Session

/-! # What a request changes

A request reports whether it changed anything. One that makes no sense at the moment changes
nothing, none changes anything a second time, and only the selection of a stage depends on the
stages that are there.
-/

namespace StageAtlas

namespace ExplorerAction

def AsksForStage : ExplorerAction → Prop
  | .selectStage _ => True
  | _ => False

end ExplorerAction

namespace Explorer

variable {explorer : Explorer} {stages : List StageDescriptor} {action : ExplorerAction}

/-- A request that makes no sense at the moment: for a stage that is not there, or for a tab while
no stage is selected. -/
def Ignores (explorer : Explorer) (stages : List StageDescriptor) : ExplorerAction → Prop
  | .selectStage id => ∀ stage ∈ stages, stage.id ≠ id
  | .setTab _ => explorer.selected = none
  | _ => False

theorem apply_of_ignores (h : explorer.Ignores stages action) :
    explorer.apply stages action = explorer := by
  cases action with
  | selectStage id =>
      have hstages : ∀ stage ∈ stages, stage.id ≠ id := h
      have hknows : ¬knows stages id = true := by simpa [knows] using hstages
      rw [apply_selectStage, if_neg hknows]
  | setTab tab =>
      have hselected : explorer.selected = none := h
      rw [apply_setTab, hselected]
      rfl
  | clearSelection | closePanel | setMode => exact h.elim

/-- What a request sets is as the same request would set it again, and what it asks about stays. -/
theorem apply_apply (explorer : Explorer) (stages : List StageDescriptor)
    (action : ExplorerAction) :
    (explorer.apply stages action).apply stages action = explorer.apply stages action := by
  cases action with
  | selectStage id => by_cases hid : knows stages id <;> simp [apply_selectStage, hid]
  | setTab tab => by_cases hselected : explorer.selected.isSome <;> simp [apply_setTab, hselected]
  | clearSelection | closePanel => rfl
  | setMode mode => cases mode <;> rfl

theorem apply_congr (h : ¬action.AsksForStage) (explorer : Explorer)
    (stages others : List StageDescriptor) :
    explorer.apply stages action = explorer.apply others action := by
  cases action with
  | selectStage id => exact (h trivial).elim
  | clearSelection | closePanel | setTab => rfl
  | setMode mode => cases mode <;> rfl

/-! ## Reports -/

theorem dispatch_eq_of_apply_eq (h : explorer.apply stages action = explorer) :
    explorer.dispatch action stages = (explorer, false) := by
  rw [dispatch_eq, h, become_self]

theorem changed_iff (explorer : Explorer) (action : ExplorerAction)
    (stages : List StageDescriptor) :
    (explorer.dispatch action stages).2 = true ↔
      (explorer.dispatch action stages).1 ≠ explorer := by
  rw [dispatch_eq]
  exact bne_iff_ne

theorem dispatch_congr (h : ¬action.AsksForStage) (explorer : Explorer)
    (stages others : List StageDescriptor) :
    explorer.dispatch action stages = explorer.dispatch action others := by
  rw [dispatch_eq, dispatch_eq, apply_congr h explorer stages others]

/-! ## Sessions -/

def within (loaded : Option LoadedProgram) (outcome : Explorer × Bool) : Session × Bool :=
  (⟨loaded, outcome.1⟩, outcome.2)

theorem session_dispatch (loaded : Option LoadedProgram) (explorer : Explorer)
    (action : ExplorerAction) :
    Session.dispatch ⟨loaded, explorer⟩ action =
      within loaded (explorer.dispatch action (Session.stages ⟨loaded, explorer⟩)) :=
  rfl

/-- A session hands the requests that do not ask for a stage to its explorer, which needs no stages
for them. -/
theorem session_dispatch_congr (h : ¬action.AsksForStage) (loaded : Option LoadedProgram)
    (explorer : Explorer) (stages : List StageDescriptor) :
    Session.dispatch ⟨loaded, explorer⟩ action =
      within loaded (explorer.dispatch action stages) := by
  rw [session_dispatch, dispatch_congr h]

/-- Any request in any state, whatever stages are there: it reports a change just when there is one,
it is ignored if it makes no sense, and making it again changes nothing. Only selecting a stage
depends on the stages that are there. -/
theorem dispatch_reports (explorer : Explorer) (action : ExplorerAction)
    (stages : List StageDescriptor) :
    ((explorer.dispatch action stages).2 = true ↔
      (explorer.dispatch action stages).1 ≠ explorer) ∧
    (explorer.Ignores stages action → explorer.dispatch action stages = (explorer, false)) ∧
    (explorer.dispatch action stages).1.dispatch action stages =
      ((explorer.dispatch action stages).1, false) ∧
    (¬action.AsksForStage →
      ∀ others, explorer.dispatch action others = explorer.dispatch action stages) ∧
    (explorer.clearSelection = explorer.dispatch .clearSelection stages ∧
      (∀ tab, explorer.setTab tab = explorer.dispatch (.setTab tab) stages) ∧
      ∀ mode, explorer.setMode mode = explorer.dispatch (.setMode mode) stages) ∧
    ∀ loaded : Option LoadedProgram,
      Session.clearSelection ⟨loaded, explorer⟩ = within loaded explorer.clearSelection ∧
      (∀ tab, Session.setTab ⟨loaded, explorer⟩ tab = within loaded (explorer.setTab tab)) ∧
      ∀ mode, Session.setMode ⟨loaded, explorer⟩ mode = within loaded (explorer.setMode mode) := by
  have hagain : (explorer.dispatch action stages).1.dispatch action stages =
      ((explorer.dispatch action stages).1, false) :=
    dispatch_eq_of_apply_eq (explorer.apply_apply stages action)
  refine ⟨explorer.changed_iff action stages, fun h => ?_, hagain, fun h others => ?_,
    ⟨?_, fun tab => ?_, fun mode => ?_⟩, fun loaded => ⟨?_, fun tab => ?_, fun mode => ?_⟩⟩
  · exact dispatch_eq_of_apply_eq (apply_of_ignores h)
  · exact dispatch_congr h explorer others stages
  · exact dispatch_congr id explorer [] stages
  · exact dispatch_congr id explorer [] stages
  · exact dispatch_congr id explorer [] stages
  · exact session_dispatch_congr id loaded explorer []
  · exact session_dispatch_congr id loaded explorer []
  · exact session_dispatch_congr id loaded explorer []

/-- A tab is asked for in the overview, which has no selection, and then the stage `a`, which is not
there. -/
theorem dispatch_reports_ignored :
    Explorer.Ignores ⟨.overview, none, .flow, false⟩ [] (.setTab .tables) ∧
    dispatch ⟨.overview, none, .flow, false⟩ (.setTab .tables) [] =
      (⟨.overview, none, .flow, false⟩, false) ∧
    Explorer.Ignores ⟨.overview, none, .flow, false⟩ [] (.selectStage ⟨"a"⟩) ∧
    dispatch ⟨.overview, none, .flow, false⟩ (.selectStage ⟨"a"⟩) [] =
      (⟨.overview, none, .flow, false⟩, false) ∧
    ¬ExplorerAction.AsksForStage (.setTab .tables) ∧
    dispatch ⟨.overview, none, .flow, false⟩ (.setTab .tables)
        [⟨⟨"a"⟩, "a", .parser, 0, ⟨0, 0, 0⟩⟩] =
      dispatch ⟨.overview, none, .flow, false⟩ (.setTab .tables) [] := by
  have htab : Explorer.Ignores ⟨.overview, none, .flow, false⟩ [] (.setTab .tables) := rfl
  have hstage : Explorer.Ignores ⟨.overview, none, .flow, false⟩ [] (.selectStage ⟨"a"⟩) := by
    simp [Ignores]
  have hlist := (dispatch_reports ⟨.overview, none, .flow, false⟩ (.setTab .tables) []).2.2.2.1 id
  exact ⟨htab, (dispatch_reports _ _ _).2.1 htab, hstage, (dispatch_reports _ _ _).2.1 hstage,
    id, hlist _⟩

end Explorer

end StageAtlas
