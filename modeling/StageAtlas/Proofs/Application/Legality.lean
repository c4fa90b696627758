import StageAtlas.Application.Frame
import StageAtlas.Application.Input
import StageAtlas.Proofs.Application.Account
import StageAtlas.Proofs.View.Requests

/-! # Views ask for what is legal

What a view asks for is carried out in the state from which the view was drawn. So a stage is
offered only if it is there, and the panel asks for something only while it is open; no request that
comes alone is ever ignored.
-/

namespace StageAtlas

namespace ExplorerAction

/-- Whether a request that a view makes always changes something. A stage may be selected already,
and a mode may be the one that is shown. -/
def MustChange : ExplorerAction → Prop
  | selectStage _ => False
  | setMode _ => False
  | clearSelection => True
  | closePanel => True
  | setTab _ => True

end ExplorerAction

namespace Explorer

/-- The state that a request leads to if it is not ignored. -/
def granted (explorer : Explorer) : ExplorerAction → Explorer
  | .selectStage id => { explorer with mode := .pipeline, selected := some id, panelOpen := true }
  | .clearSelection => { explorer with selected := none, panelOpen := false }
  | .closePanel => { explorer with panelOpen := false }
  | .setTab tab => { explorer with tab }
  | .setMode .pipeline => { explorer with mode := .pipeline }
  | .setMode .overview => { explorer with mode := .overview, selected := none, panelOpen := false }

theorem knows_of_mem {stages : List StageDescriptor} {stage : StageDescriptor}
    (h : stage ∈ stages) : knows stages stage.id :=
  List.any_eq_true.2 ⟨stage, h, beq_self_eq_true _⟩

end Explorer

theorem Session.stages_of_loaded {session : Session} {loaded : LoadedProgram}
    (h : session.loaded = some loaded) : session.stages = loaded.stages := by
  rw [Session.stages, h]

/-- A view is there only while the panel is open on a stage of the pipeline, and it is that of the
active tab. -/
theorem Session.shown_of_detail? {session : Session} {detail : DetailView}
    (h : session.detail? = some detail) :
    session.explorer.selected.isSome ∧ session.explorer.panelOpen = true ∧
      detail.tab = session.explorer.tab := by
  unfold Session.detail? at h
  split at h
  · rename_i hvisible
    simp only [Explorer.detailVisible, Bool.and_eq_true] at hvisible
    obtain ⟨loaded, _, h⟩ := Option.bind_eq_some_iff.1 h
    obtain ⟨⟨_, stage⟩, _, h⟩ := Option.bind_eq_some_iff.1 h
    obtain rfl := Option.some.inj h
    exact ⟨hvisible.1.2, hvisible.1.1, stage.tab_detail _ _⟩
  · cases h

namespace Application

/-- What a view may ask of the explorer, each with what makes it legal. -/
inductive Legal (session : Session) : Pane → ExplorerAction → Prop where
  | setMode (mode : ViewMode) : Legal session .menuBar (.setMode mode)
  | setTab (tab : DetailTab) (hselected : session.explorer.selected.isSome)
      (hopen : session.explorer.panelOpen = true) (hother : tab ≠ session.explorer.tab) :
      Legal session .detailPanel (.setTab tab)
  | closePanel (hopen : session.explorer.panelOpen = true) :
      Legal session .detailPanel .closePanel
  | deselect (hopen : session.explorer.panelOpen = true) :
      Legal session .detailPanel .clearSelection
  | selectRow (stage : StageDescriptor) (hstage : stage ∈ session.stages) :
      Legal session .central (.selectStage stage.id)
  | selectCard (stage : StageDescriptor) (hstage : stage ∈ session.stages) :
      Legal session .canvas (.selectStage stage.id)
  | clickBeside (hselected : session.explorer.selected.isSome) :
      Legal session .canvas .clearSelection

namespace Legal

variable {session : Session} {pane : Pane} {action : ExplorerAction}

theorem apply_eq_granted (h : Legal session pane action) :
    session.explorer.apply session.stages action = session.explorer.granted action := by
  cases h with
  | setMode mode => cases mode <;> rfl
  | setTab tab hselected => simp [Explorer.apply_setTab, Explorer.granted, hselected]
  | selectRow stage hstage | selectCard stage hstage =>
      rw [Explorer.apply_selectStage, if_pos (Explorer.knows_of_mem hstage)]
      rfl
  | _ => rfl

theorem granted_ne (h : Legal session pane action) (hchange : action.MustChange) :
    session.explorer.granted action ≠ session.explorer := by
  intro hsame
  cases h with
  | setTab tab _ _ hother => exact hother (congrArg Explorer.tab hsame)
  | closePanel hopen =>
      have hshut := congrArg Explorer.panelOpen hsame
      simp [Explorer.granted, hopen] at hshut
  | deselect hopen =>
      have hshut := congrArg Explorer.panelOpen hsame
      simp [Explorer.granted, hopen] at hshut
  | clickBeside hselected =>
      have hnone := congrArg Explorer.selected hsame
      simp [← hnone, Explorer.granted] at hselected
  | _ => exact hchange

theorem dispatch_eq (h : Legal session pane action) :
    (session.dispatch action).1 =
      { session with explorer := session.explorer.granted action } := by
  rw [← h.apply_eq_granted, Session.fst_dispatch]

theorem changed (h : Legal session pane action) (hchange : action.MustChange) :
    (session.dispatch action).2 = true := by
  have hne := h.granted_ne hchange
  rw [← h.apply_eq_granted] at hne
  rw [Session.snd_dispatch]
  exact bne_iff_ne.2 hne

end Legal

/-! ## What each view may ask for -/

variable {app : Application} {time : String} {handling : Handling} {pane : Pane}
  {request : Request} {action : ExplorerAction}

/-- The program that is held is shown by the models that are derived from it. -/
def ShowsDerived (app : Application) : Prop :=
  ∀ loaded, app.session.loaded = some loaded → loaded = .derive loaded.program

theorem showsDerived_live_start (preferences : Preferences) (file : Option Path)
    (moments : List Moment) : ((start preferences file).live moments).ShowsDerived := by
  intro loaded hloaded
  have haccounts := (accounts_fresh preferences).live (opening file ++ moments)
  rw [← live_start] at haccounts
  rw [haccounts.program] at hloaded
  obtain ⟨program, _, rfl⟩ := Option.map_eq_some_iff.1 hloaded
  rfl

theorem asked_of_ne_canvas (app : Application) (time : String) (handling : Handling)
    (hpane : pane ≠ .canvas) :
    app.asked time handling pane =
      Label.requests ((handling.clicks pane).filterMap fun place =>
        (app.labels time pane)[place]?) := by
  cases pane with
  | canvas => exact (hpane rfl).elim
  | _ => rfl

/-- Beside the canvas, only the labels of a view ask for something in it. -/
theorem mem_requests_labels (hpane : pane ≠ .canvas) (h : request ∈ app.asked time handling pane) :
    request ∈ Label.requests (app.labels time pane) := by
  rw [asked_of_ne_canvas app time handling hpane, Label.mem_requests_iff] at h
  obtain ⟨label, hlabel, hreaction⟩ := h
  obtain ⟨place, _, hplace⟩ := List.mem_filterMap.1 hlabel
  exact Label.mem_requests_iff.2 ⟨label, List.mem_of_getElem? hplace, hreaction⟩

theorem legal_menuBar (h : .explore action ∈ Label.requests (app.labels time .menuBar)) :
    Legal app.session .menuBar action := by
  rw [labels, Label.requests_append, MenuBar.requests_bar, List.nil_append, menuItems] at h
  cases hmenu : app.openMenu with
  | none => simp [hmenu] at h
  | some menu =>
      simp only [hmenu, MenuBar.requests_items] at h
      cases menu with
      | file => simp at h
      | view =>
          obtain ⟨mode, _, rfl⟩ : ∃ mode ∈ ViewMode.all, ExplorerAction.setMode mode = action := by
            simpa using h
          exact .setMode mode

theorem not_mem_requests_statusBar :
    .explore action ∉ Label.requests (app.labels time .statusBar) := by
  rw [labels, StatusBar.requests_view]
  split <;> simp

theorem exists_detail_of_panel (h : app.panel ≠ []) :
    ∃ stage detail, app.panel = DetailPanel.view app.folds stage detail ∧
      app.session.detail? = some detail := by
  unfold panel at h ⊢
  split at h
  · rename_i detail stage _ hdetail _
    exact ⟨stage, detail, rfl, hdetail⟩
  · exact (h rfl).elim

theorem legal_detailPanel (h : .explore action ∈ Label.requests (app.labels time .detailPanel)) :
    Legal app.session .detailPanel action := by
  have hpanel : app.panel ≠ [] := by
    intro hnil
    simp [labels, hnil] at h
  obtain ⟨stage, detail, hview, hdetail⟩ := exists_detail_of_panel hpanel
  obtain ⟨hselected, hopen, htab⟩ := Session.shown_of_detail? hdetail
  rw [labels, hview, DetailPanel.requests_view, htab] at h
  simp only [List.mem_cons, Request.explore.injEq, List.mem_map, List.mem_filter,
    decide_eq_true_eq] at h
  obtain rfl | rfl | ⟨tab, ⟨_, hother⟩, rfl⟩ := h
  · exact .closePanel hopen
  · exact .deselect hopen
  · exact .setTab tab hselected hopen hother

theorem requests_cardLabels (app : Application) (loaded : LoadedProgram) :
    Label.requests (app.cardLabels loaded) = [] := by
  apply Label.requests_flatMap_eq_nil
  intro card
  rfl

theorem legal_central (h : .explore action ∈ Label.requests (app.labels time .central)) :
    Legal app.session .central action := by
  simp only [labels, central] at h
  cases hloaded : app.session.loaded with
  | none => simp [hloaded] at h
  | some loaded =>
      simp only [hloaded] at h
      split at h
      · simp at h
      · split at h
        · simp [requests_cardLabels] at h
        · rw [OverviewPage.requests_view] at h
          obtain ⟨stage, hstage, hrequest⟩ := List.mem_map.1 h
          obtain rfl := Request.explore.inj hrequest
          exact .selectRow stage (Session.stages_of_loaded hloaded ▸ hstage)

theorem legal_canvas (hderived : app.ShowsDerived)
    (h : .explore action ∈ app.asked time handling .canvas) : Legal app.session .canvas action := by
  obtain ⟨loaded, hshown, hrequest⟩ : ∃ loaded, app.shownPipeline? = some loaded ∧ .explore action ∈
      (Canvas.frame app.viewport loaded.graph app.session.explorer.selected app.preferences.layout
        handling.bounds handling.pointer).requests := by
    cases hshown : app.shownPipeline? with
    | none => simp [asked, canvasFrame?, hshown] at h
    | some loaded => exact ⟨loaded, rfl, by simpa [asked, canvasFrame?, hshown] using h⟩
  have hloaded : app.session.loaded = some loaded := (Option.filter_eq_some_iff.1 hshown).1
  obtain ⟨card, hcard, rfl⟩ | ⟨rfl, hselected⟩ := Canvas.explore_of_mem_requests hrequest
  · have hnode := Canvas.node_mem_of_mem_cards hcard
    rw [hderived loaded hloaded] at hnode
    obtain ⟨stage, hstage, hsame⟩ := List.mem_map.1 hnode
    rw [← hsame]
    have hstages := Session.stages_of_loaded hloaded
    rw [hderived loaded hloaded] at hstages
    exact .selectCard stage (hstages ▸ hstage)
  · exact .clickBeside hselected

theorem legal_of_mem_asked (hderived : app.ShowsDerived)
    (h : .explore action ∈ app.asked time handling pane) : Legal app.session pane action := by
  cases pane with
  | menuBar => exact legal_menuBar (mem_requests_labels (by decide) h)
  | statusBar => exact (not_mem_requests_statusBar (mem_requests_labels (by decide) h)).elim
  | detailPanel => exact legal_detailPanel (mem_requests_labels (by decide) h)
  | central => exact legal_central (mem_requests_labels (by decide) h)
  | canvas => exact legal_canvas hderived h

theorem shown_of_panel (h : app.panel ≠ []) :
    app.session.explorer.selected.isSome ∧ app.session.explorer.panelOpen = true := by
  obtain ⟨_, _, _, hdetail⟩ := exists_detail_of_panel h
  obtain ⟨hselected, hopen, _⟩ := Session.shown_of_detail? hdetail
  exact ⟨hselected, hopen⟩

/-! ## A click is a frame -/

theorem exists_place_of_mem_view {label : Label} (h : label ∈ app.view time) :
    ∃ (pane : Pane) (place : Nat),
      pane ≠ .canvas ∧ (app.labels time pane)[place]? = some label := by
  suffices hpane : ∃ pane : Pane, pane ≠ .canvas ∧ label ∈ app.labels time pane by
    obtain ⟨pane, hne, hmem⟩ := hpane
    obtain ⟨place, hplace⟩ := List.mem_iff_getElem?.1 hmem
    exact ⟨pane, place, hne, hplace⟩
  rw [view] at h
  obtain h | hitem := List.mem_append.1 h
  · obtain h | hcentral := List.mem_append.1 h
    · obtain h | hpanel := List.mem_append.1 h
      · obtain hbar | hstatus := List.mem_append.1 h
        · exact ⟨.menuBar, by decide, List.mem_append_left _ hbar⟩
        · exact ⟨.statusBar, by decide, hstatus⟩
      · exact ⟨.detailPanel, by decide, hpanel⟩
    · exact ⟨.central, by decide, hcentral⟩
  · exact ⟨.menuBar, by decide, List.mem_append_right _ hitem⟩

def Handling.onLabel (pane : Pane) (place : Nat) : Handling :=
  ⟨fun other => if other = pane then [place] else [], canvasArea, .absent⟩

def Handling.onCanvas (spot : Point) : Handling :=
  ⟨fun _ => [], canvasArea, .clicking spot false⟩

theorem asked_onLabel {place : Nat} {label : Label} (hpane : pane ≠ .canvas)
    (h : (app.labels time pane)[place]? = some label) (other : Pane) :
    app.asked time (.onLabel pane place) other =
      if other = pane then Label.requests [label] else [] := by
  by_cases hcanvas : other = .canvas
  · subst hcanvas
    rw [if_neg (Ne.symm hpane), asked, canvasFrame?]
    cases app.shownPipeline? <;> rfl
  · rw [asked_of_ne_canvas app time _ hcanvas]
    by_cases hother : other = pane
    · subst hother
      simp [Handling.onLabel, h]
    · simp [Handling.onLabel, hother]

theorem requests_onLabel {place : Nat} {label : Label} (hpane : pane ≠ .canvas)
    (h : (app.labels time pane)[place]? = some label) :
    app.requests time (.onLabel pane place) = Label.requests [label] := by
  have hasked : app.asked time (.onLabel pane place) =
      fun other => if other = pane then Label.requests [label] else [] :=
    funext (asked_onLabel hpane h)
  rw [requests, hasked]
  cases pane <;> simp [Pane.all]

theorem requests_onCanvas (app : Application) (time : String) (spot : Point) :
    app.requests time (.onCanvas spot) =
      ((app.canvasFrame? (.onCanvas spot)).map (·.requests)).getD [] := by
  have hclicks : ∀ pane, (Handling.onCanvas spot).clicks pane = [] := fun _ => rfl
  simp [requests, Pane.all, asked, hclicks]

theorem session_handleAll_congr {a b : Application} (h : a.session = b.session)
    (requests : List Request) :
    (a.handleAll requests).session = (b.handleAll requests).session := by
  induction requests generalizing a b with
  | nil => exact h
  | cons request rest ih => exact ih (session_handle_congr h request)

theorem session_clickCanvas (app : Application) (time : String) (spot : Point) :
    ({ app with openMenu := none }.clickCanvas spot).session =
      (app.use time (.onCanvas spot)).session := by
  have hshut : { app with openMenu := none }.shownPipeline? = app.shownPipeline? := rfl
  rw [use, requests_onCanvas, clickCanvas, hshut]
  cases hshown : app.shownPipeline? with
  | none => simp [canvasFrame?, hshown, handleAll]
  | some loaded =>
      simp only [canvasFrame?, hshown]
      apply session_handleAll_congr
      rfl

/-- A click on a label does to the session what a frame does in which nothing else is touched. -/
theorem exists_session_click_eq {label : Label} (h : label ∈ app.view time) :
    ∃ handling, (app.click label).session = (app.use time handling).session := by
  obtain ⟨pane, place, hpane, hplace⟩ := exists_place_of_mem_view h
  cases hreaction : label.reaction with
  | canvas spot =>
      refine ⟨.onCanvas spot, ?_⟩
      rw [click, hreaction]
      exact session_clickCanvas app time spot
  | ask request =>
      refine ⟨.onLabel pane place, ?_⟩
      have hrequests : Label.requests [label] = [request] := by simp [Label.requests, hreaction]
      simp only [use, requests_onLabel hpane hplace, hrequests, click, hreaction]
      apply session_handle_congr
      rfl
  | menu menu =>
      refine ⟨.onLabel pane place, ?_⟩
      have hrequests : Label.requests [label] = [] := by simp [Label.requests, hreaction]
      rw [use, requests_onLabel hpane hplace, hrequests, click, hreaction]
      by_cases hopen : app.openMenu = some menu
      · simp [hopen, handleAll]
      · simp [hopen, handleAll]
  | _ =>
      refine ⟨.onLabel pane place, ?_⟩
      have hrequests : Label.requests [label] = [] := by simp [Label.requests, hreaction]
      rw [use, requests_onLabel hpane hplace, hrequests, click, hreaction]
      rfl

/-! ## A frame as a whole -/

theorem exists_pane_of_mem_requests (h : request ∈ app.requests time handling) :
    ∃ pane, request ∈ app.asked time handling pane := by
  obtain ⟨pane, _, hasked⟩ := List.mem_flatMap.1 h
  exact ⟨pane, hasked⟩

theorem session_use_of_explore (h : app.requests time handling = [.explore action]) :
    (app.use time handling).session = (app.session.dispatch action).1 := by
  rw [use, h]
  rfl

/-- However the application came to its state and whatever is done to its views in a frame: what
they ask of the explorer is legal in the state they are drawn from. A request that comes alone is
carried out there as it stands, and changes something unless it is for a stage or for a mode. -/
theorem legal_of_asked (preferences : Preferences) (file : Option Path) (moments : List Moment)
    (time : String) (handling : Handling) :
    let app := (start preferences file).live moments
    (∀ pane action, .explore action ∈ app.asked time handling pane →
        Legal app.session pane action) ∧
      (app.panel ≠ [] →
        app.session.explorer.selected.isSome ∧ app.session.explorer.panelOpen = true) ∧
      ∀ action, app.requests time handling = [.explore action] →
        (app.use time handling).session =
            { app.session with explorer := app.session.explorer.granted action } ∧
          (action.MustChange → (app.session.dispatch action).2 = true) := by
  intro app
  have hlegal : ∀ pane action, .explore action ∈ app.asked time handling pane →
      Legal app.session pane action := fun pane action =>
    legal_of_mem_asked (showsDerived_live_start preferences file moments)
  refine ⟨hlegal, shown_of_panel, fun action hrequests => ?_⟩
  have hmem : .explore action ∈ app.requests time handling := by simp [hrequests]
  obtain ⟨pane, hasked⟩ := exists_pane_of_mem_requests hmem
  have haction := hlegal pane action hasked
  rw [session_use_of_explore hrequests]
  exact ⟨haction.dispatch_eq, haction.changed⟩

/-- A stage is selected, and in the panel that opens the second tab is clicked. -/
theorem legal_of_asked_tab :
    let program : Program := ⟨[.bare "in" .parser], .empty, none⟩
    let bridge : Loader.Bridge := ⟨[], none, [.loaded "p.json" program], true⟩
    let moments : List Moment := [.beside bridge .standard .fresh none, .frame,
      .request (.explore (.selectStage ⟨"in"⟩))]
    let app := (start .standard none).live moments
    let handling := Handling.onLabel .detailPanel 8
    app.panel ≠ [] ∧ app.session.explorer.panelOpen = true ∧
      app.requests "now" handling = [.explore (.setTab .tables)] ∧
      Legal app.session .detailPanel (.setTab .tables) ∧
      (app.use "now" handling).session =
        { app.session with explorer := app.session.explorer.granted (.setTab .tables) } ∧
      (app.session.dispatch (.setTab .tables)).2 = true := by
  intro program bridge moments app handling
  have hpanel : app.panel ≠ [] := by decide +kernel
  have hrequests : app.requests "now" handling = [.explore (.setTab .tables)] := by decide +kernel
  have hasked : .explore (.setTab .tables) ∈ app.asked "now" handling .detailPanel := by
    decide +kernel
  obtain ⟨hlegal, hshown, halone⟩ := legal_of_asked .standard none moments "now" handling
  obtain ⟨hused, hchanged⟩ := halone _ hrequests
  exact ⟨hpanel, (hshown hpanel).2, hrequests, hlegal _ _ hasked, hused, hchanged trivial⟩

end Application

end StageAtlas
