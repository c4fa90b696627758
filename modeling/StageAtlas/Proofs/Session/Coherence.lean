import StageAtlas.Loader.Document
import StageAtlas.Proofs.Pipeline.Order

/-! # Sessions stay coherent

Whatever is loaded, unloaded and asked for, in any order, the explorer never points beside the
program. The invariant has two halves: the models of the program are the derived ones and its names
differ, and the explorer is sound for the stages that are there.
-/

namespace StageAtlas

namespace Program

/-- A structure that some value or some text describes. -/
def Genuine (program : Program) : Prop :=
  (∃ v, program = decode v) ∨ ∃ text fallback, Document.parse text fallback = .ok program

/-- Parsing changes nothing of a decoded structure but its file name. -/
theorem exists_decode_of_parse {text : String} {fallback : Option String} {program : Program}
    (h : Document.parse text fallback = .ok program) :
    ∃ v filename, program = { decode v with filename } := by
  unfold Document.parse at h
  split at h
  · cases h
  · rename_i v _
    simp only [Document.interpret] at h
    split at h
    · cases h
      exact ⟨(Document.body v).1, _, rfl⟩
    · cases h

theorem Genuine.nodup_names {program : Program} (h : program.Genuine) :
    (program.stages.map Stage.name).Nodup := by
  rcases h with ⟨v, rfl⟩ | ⟨text, fallback, h⟩
  · exact nodup_names_decode v
  · obtain ⟨v, filename, rfl⟩ := exists_decode_of_parse h
    exact nodup_names_decode v

end Program

namespace Explorer

/-- The explorer agrees with the stages that are there. -/
structure Sound (explorer : Explorer) (stages : List StageDescriptor) : Prop where
  selected_known : ∀ id, explorer.selected = some id → knows stages id
  overview_hides : explorer.mode = .overview → explorer.selected = none
  panel_selected : explorer.panelOpen = true → explorer.selected.isSome
  tab_needs_stages : explorer.tab ≠ .deepDive → stages ≠ []

theorem sound_initial (stages : List StageDescriptor) : initial.Sound stages :=
  ⟨nofun, fun _ => rfl, nofun, fun h => (h rfl).elim⟩

/-- Every request leaves the explorer sound: what it selects is known, and what hides the selection
shuts the panel. -/
theorem Sound.apply {explorer : Explorer} {stages : List StageDescriptor}
    (h : explorer.Sound stages) (action : ExplorerAction) :
    (explorer.apply stages action).Sound stages := by
  cases action with
  | selectStage id =>
      by_cases hid : knows stages id
      · simp only [apply_selectStage, hid, if_true]
        exact ⟨fun other he => Option.some.inj he ▸ hid, nofun, fun _ => rfl, h.tab_needs_stages⟩
      · simpa [apply_selectStage, hid] using h
  | clearSelection => exact ⟨nofun, fun _ => rfl, nofun, h.tab_needs_stages⟩
  | closePanel => exact ⟨h.selected_known, h.overview_hides, nofun, h.tab_needs_stages⟩
  | setTab tab =>
      cases hselected : explorer.selected with
      | none => simpa [apply_setTab, hselected] using h
      | some id =>
          have hstages : stages ≠ [] := ne_nil_of_knows (h.selected_known id hselected)
          have hnext : explorer.apply stages (.setTab tab) = { explorer with tab } := by
            simp [apply_setTab, hselected]
          rw [hnext]
          exact ⟨h.selected_known, h.overview_hides, h.panel_selected, fun _ => hstages⟩
  | setMode mode =>
      cases mode with
      | pipeline => exact ⟨h.selected_known, nofun, h.panel_selected, h.tab_needs_stages⟩
      | overview => exact ⟨nofun, fun _ => rfl, nofun, h.tab_needs_stages⟩

theorem Sound.detailVisible_eq {explorer : Explorer} {stages : List StageDescriptor}
    (h : explorer.Sound stages) : explorer.detailVisible = explorer.panelOpen := by
  cases hpanel : explorer.panelOpen with
  | false => simp [detailVisible, hpanel]
  | true =>
      have hselected := h.panel_selected hpanel
      have hmode : explorer.mode = .pipeline := by
        cases hmode : explorer.mode with
        | pipeline => rfl
        | overview => simp [h.overview_hides hmode] at hselected
      simp [detailVisible, hpanel, hselected, hmode]

end Explorer

namespace Session

/-- The program is what a document gives, its models are derived from it, and the explorer is sound
for its stages. -/
structure Coherent (session : Session) : Prop where
  derived : ∀ loaded, session.loaded = some loaded →
    loaded = .derive loaded.program ∧ (loaded.program.stages.map Stage.name).Nodup
  sound : session.explorer.Sound session.stages

theorem coherent_fresh : fresh.Coherent := ⟨nofun, Explorer.sound_initial _⟩

theorem coherent_load (session : Session) {program : Program} (h : program.Genuine) :
    (session.load program).Coherent := by
  refine ⟨fun loaded he => ?_, Explorer.sound_initial _⟩
  obtain rfl := Option.some.inj he
  exact ⟨rfl, h.nodup_names⟩

/-- A load brings a program that a document gives. -/
def Event.Genuine : Event → Prop
  | .load program => program.Genuine
  | .unload => True
  | .act _ => True

theorem Coherent.step {session : Session} (h : session.Coherent) {event : Event}
    (hevent : event.Genuine) : (session.step event).Coherent := by
  cases event with
  | load program => exact coherent_load session hevent
  | unload => exact coherent_fresh
  | act action => exact ⟨h.derived, h.sound.apply action⟩

theorem Coherent.run {session : Session} (h : session.Coherent) {events : List Event}
    (hevents : ∀ event ∈ events, event.Genuine) : (session.run events).Coherent := by
  induction events generalizing session with
  | nil => exact h
  | cons event rest ih =>
      rw [run_cons]
      have hstep : (session.step event).Coherent := h.step (hevents event (by simp))
      exact ih hstep fun other hother => hevents other (by simp [hother])

/-! ## What a coherent session shows -/

theorem exists_loaded_of_knows {session : Session} {id : StageId}
    (h : Explorer.knows session.stages id) :
    ∃ loaded, session.loaded = some loaded ∧ session.stages = loaded.stages := by
  cases hloaded : session.loaded with
  | none => exact (Explorer.ne_nil_of_knows h (by simp [stages, hloaded])).elim
  | some loaded => exact ⟨loaded, rfl, by simp [stages, hloaded]⟩

theorem Coherent.selectedStage?_isSome {session : Session} (h : session.Coherent) :
    session.selectedStage?.isSome = session.explorer.selected.isSome := by
  cases hselected : session.explorer.selected with
  | none => cases hloaded : session.loaded <;> simp [selectedStage?, hselected, hloaded]
  | some id =>
      have hid := h.sound.selected_known id hselected
      obtain ⟨loaded, hloaded, hstages⟩ := exists_loaded_of_knows hid
      have hderived := (h.derived loaded hloaded).1
      rw [hstages] at hid
      obtain ⟨descriptor, hdescriptor⟩ :=
        Option.isSome_iff_exists.1 (Explorer.find_isSome_of_knows hid)
      rw [hderived] at hid
      obtain ⟨stage, hstage⟩ := Option.isSome_iff_exists.1 (Program.stage?_isSome_of_knows hid)
      simp [selectedStage?, hselected, hloaded, hdescriptor, hstage]

theorem Coherent.detail? {session : Session} (h : session.Coherent) :
    session.detail?.isSome = session.explorer.panelOpen ∧
      ∀ view, session.detail? = some view → view.tab = session.explorer.tab := by
  have hvisible := h.sound.detailVisible_eq
  cases hpanel : session.explorer.panelOpen with
  | false => simp [Session.detail?, hvisible, hpanel]
  | true =>
      obtain ⟨id, hselected⟩ := Option.isSome_iff_exists.1 (h.sound.panel_selected hpanel)
      obtain ⟨loaded, hloaded, _⟩ :=
        exists_loaded_of_knows (h.sound.selected_known id hselected)
      have hstage : session.selectedStage?.isSome := by
        rw [h.selectedStage?_isSome, hselected, Option.isSome_some]
      obtain ⟨⟨descriptor, stage⟩, hstage⟩ := Option.isSome_iff_exists.1 hstage
      simp [Session.detail?, hvisible, hpanel, hloaded, hstage]

/-- What a session promises to whoever shows it. What is selected is one stage of the program and is
found, what is open is shown under the active tab, and nothing of either is left in the overview or
without stages. The models are those of the program that is held. -/
structure Consistent (session : Session) : Prop where
  selection : ∀ id, session.explorer.selected = some id →
    session.loaded.isSome ∧ session.stages.countP (·.id = id) = 1
  overview : session.explorer.mode = .overview →
    session.explorer.selected = none ∧ session.explorer.panelOpen = false
  panel : session.explorer.panelOpen = true →
    session.explorer.selected.isSome ∧ session.explorer.mode = .pipeline
  visible : session.explorer.detailVisible = session.explorer.panelOpen
  found : session.selectedStage?.isSome = session.explorer.selected.isSome
  shown : session.detail?.isSome = session.explorer.panelOpen
  tab : ∀ view, session.detail? = some view → view.tab = session.explorer.tab
  noStages : session.stages = [] ↔
    ∀ loaded, session.loaded = some loaded → loaded.program.stages = []
  atRest : session.stages = [] →
    session.explorer.selected = none ∧ session.explorer.tab = .deepDive
  stages : ∀ loaded, session.loaded = some loaded → session.stages = loaded.program.descriptors
  graph : ∀ loaded, session.loaded = some loaded → loaded.graph = loaded.program.graph
  counts : ∀ loaded, session.loaded = some loaded → loaded.overview = loaded.program.overview

theorem Coherent.stages_eq {session : Session} (h : session.Coherent) {loaded : LoadedProgram}
    (hloaded : session.loaded = some loaded) : session.stages = loaded.program.descriptors := by
  have hderived := (h.derived loaded hloaded).1
  rw [Session.stages, hloaded]
  dsimp only
  rw [hderived]
  rfl

theorem Coherent.stages_eq_nil_iff {session : Session} (h : session.Coherent) :
    session.stages = [] ↔ ∀ loaded, session.loaded = some loaded → loaded.program.stages = [] := by
  cases hloaded : session.loaded with
  | none => simp [Session.stages, hloaded]
  | some loaded =>
      rw [h.stages_eq hloaded, Program.descriptors_eq_nil_iff]
      simp

/-- A selection in a coherent session is one of its stages and no other's. -/
theorem Coherent.selection {session : Session} (h : session.Coherent) {id : StageId}
    (hselected : session.explorer.selected = some id) :
    session.loaded.isSome ∧ session.stages.countP (·.id = id) = 1 := by
  have hid := h.sound.selected_known id hselected
  obtain ⟨loaded, hloaded, _⟩ := exists_loaded_of_knows hid
  have hnames := (h.derived loaded hloaded).2
  rw [h.stages_eq hloaded] at hid ⊢
  exact ⟨by simp [hloaded], Program.count_descriptors_of_knows hnames hid⟩

theorem Coherent.consistent {session : Session} (h : session.Coherent) : session.Consistent where
  selection := fun _ hselected => h.selection hselected
  overview := by
    intro hmode
    have hselected := h.sound.overview_hides hmode
    refine ⟨hselected, ?_⟩
    cases hpanel : session.explorer.panelOpen with
    | false => rfl
    | true => simpa [hselected] using h.sound.panel_selected hpanel
  panel := by
    intro hpanel
    have hvisible := h.sound.detailVisible_eq.trans hpanel
    simp only [Explorer.detailVisible, Bool.and_eq_true, beq_iff_eq] at hvisible
    exact ⟨hvisible.1.2, hvisible.2⟩
  visible := h.sound.detailVisible_eq
  found := h.selectedStage?_isSome
  shown := h.detail?.1
  tab := h.detail?.2
  noStages := h.stages_eq_nil_iff
  atRest := by
    intro hstages
    constructor
    · cases hselected : session.explorer.selected with
      | none => rfl
      | some id =>
          exact (Explorer.ne_nil_of_knows (h.sound.selected_known id hselected) hstages).elim
    · by_contra htab
      exact h.sound.tab_needs_stages htab hstages
  stages := fun _ hloaded => h.stages_eq hloaded
  graph := by
    intro loaded hloaded
    rw [(h.derived loaded hloaded).1]
    rfl
  counts := by
    intro loaded hloaded
    rw [(h.derived loaded hloaded).1]
    rfl

/-- Every session that loads what documents give stays consistent, whatever is asked of it. -/
theorem consistent_run {events : List Event} (h : ∀ event ∈ events, event.Genuine) :
    (fresh.run events).Consistent :=
  (coherent_fresh.run h).consistent

/-- A program is explored, dropped while its panel is open, and explored again. -/
theorem consistent_run_reload :
    let program := Program.decode (.obj [("in", .obj [("type", .str "parser")]), ("out", .null)])
    let events : List Event := [.load program, .act (.selectStage ⟨"in"⟩), .act (.setTab .flow),
      .unload, .load program, .act (.setMode .overview), .act (.selectStage ⟨"out"⟩)]
    (∀ event ∈ events, event.Genuine) ∧ (fresh.run events).Consistent := by
  intro program events
  have hprogram : program.Genuine := .inl ⟨_, rfl⟩
  have hevents : ∀ event ∈ events, event.Genuine := by
    simp [events, Event.Genuine, hprogram]
  exact ⟨hevents, consistent_run hevents⟩

end Session

end StageAtlas
