import Mathlib.Data.List.TFAE
import StageAtlas.Proofs.Pipeline.Places
import StageAtlas.Proofs.Program.Entries
import StageAtlas.Proofs.Session.Coherence

/-! # Looking stages up in a session

However a loaded program has been explored, a stage can be selected exactly when the document has a
key for it. Selecting it leads to its own descriptor and its own data, and choosing a tab shows the
view of that tab.
-/

namespace StageAtlas

namespace Session

def explore (session : Session) (program : Program) (actions : List ExplorerAction) : Session :=
  (session.load program).run (actions.map Event.act)

/-- A session accepts a stage if the request for it selects it. -/
def Accepts (session : Session) (id : StageId) : Prop :=
  (session.dispatch (.selectStage id)).1.explorer.selected = some id

def visit (session : Session) (id : StageId) (tab : DetailTab) : Session :=
  session.run [.act (.selectStage id), .act (.setTab tab)]

theorem loaded_run_act (session : Session) (actions : List ExplorerAction) :
    (session.run (actions.map Event.act)).loaded = session.loaded := by
  induction actions generalizing session with
  | nil => rfl
  | cons action rest ih => exact ih _

@[simp] theorem loaded_explore (session : Session) (program : Program)
    (actions : List ExplorerAction) :
    (session.explore program actions).loaded = some (.derive program) :=
  loaded_run_act _ actions

@[simp] theorem stages_explore (session : Session) (program : Program)
    (actions : List ExplorerAction) :
    (session.explore program actions).stages = program.descriptors := by
  simp [stages, LoadedProgram.derive]

theorem coherent_explore (session : Session) {program : Program} (h : program.Genuine)
    (actions : List ExplorerAction) : (session.explore program actions).Coherent := by
  apply (coherent_load session h).run
  intro event hevent
  obtain ⟨action, _, rfl⟩ := List.mem_map.1 hevent
  trivial

/-! ## Selecting a stage -/

theorem explorer_selectStage {session : Session} {id : StageId}
    (h : Explorer.knows session.stages id) :
    (session.dispatch (.selectStage id)).1 =
      { session with explorer :=
          { session.explorer with
            mode := .pipeline, selected := some id, panelOpen := true } } := by
  rw [fst_dispatch, Explorer.apply_selectStage, if_pos h]

theorem visit_eq {session : Session} {id : StageId} (h : Explorer.knows session.stages id)
    (tab : DetailTab) :
    session.visit id tab = { session with explorer := ⟨.pipeline, some id, tab, true⟩ } := by
  rw [visit, run_cons, run_cons, run_nil, step, step, explorer_selectStage h]
  rfl

/-- In a coherent session the stages that are there are the ones that can be selected. -/
theorem Coherent.accepts_iff {session : Session} (h : session.Coherent) (id : StageId) :
    session.Accepts id ↔ Explorer.knows session.stages id := by
  constructor
  · exact (h.sound.apply (.selectStage id)).selected_known id
  · intro hid
    rw [Accepts, explorer_selectStage hid]

theorem changed_load_iff (session : Session) (program : Program) (id : StageId) :
    ((session.load program).dispatch (.selectStage id)).2 = true ↔
      Explorer.knows program.descriptors id := by
  have hstages : (session.load program).stages = program.descriptors := rfl
  have hexplorer : (session.load program).explorer = .initial := rfl
  rw [snd_dispatch, Explorer.apply_selectStage, hstages, hexplorer]
  by_cases hid : Explorer.knows program.descriptors id
  · simp [hid, Explorer.initial]
  · simp [hid]

/-! ## What a selection shows -/

theorem selectedStage?_selectStage (session : Session) (actions : List ExplorerAction)
    {program : Program} {stage : Stage} {descriptor : StageDescriptor} {node : GraphNode}
    (hstage : program.stage? stage.name = some stage)
    (hshows : program.Shows stage descriptor node) :
    ((session.explore program actions).dispatch
      (.selectStage ⟨stage.name⟩)).1.selectedStage? = some (descriptor, stage) := by
  have hid : Explorer.knows (session.explore program actions).stages ⟨stage.name⟩ := by
    simp [Program.knows_descriptors_iff, hstage]
  have hfind := hshows.find?_descriptors
  simp [explorer_selectStage hid, selectedStage?, LoadedProgram.derive, hfind, hstage]

theorem detail?_visit (session : Session) (actions : List ExplorerAction) {program : Program}
    (hnames : (program.stages.map Stage.name).Nodup) {name : String} {stage : Stage}
    (hstage : program.stage? name = some stage) (tab : DetailTab) :
    ((session.explore program actions).visit ⟨name⟩ tab).detail? =
      some (stage.detail program.registries tab) := by
  have hname := Program.name_of_stage?_eq_some hstage
  have hid : Explorer.knows (session.explore program actions).stages ⟨name⟩ := by
    simp [Program.knows_descriptors_iff, hstage]
  obtain ⟨_, hshows⟩ := Program.exists_shows hnames hstage
  have hfind := hshows.find?_descriptors
  rw [hname] at hfind
  simp [visit_eq hid, Session.detail?, Explorer.detailVisible, selectedStage?,
    LoadedProgram.derive, hfind, hstage]

/-- A stage of a document is shown as its own entry describes it. -/
theorem detail?_visit_of_field? (session : Session) (actions : List ExplorerAction)
    {v entry : Json} {name : String} (hname : name.toList.head? ≠ some '_')
    (h : v.field? name = some entry) (tab : DetailTab) :
    ((session.explore (Program.decode v) actions).visit ⟨name⟩ tab).detail? =
      some ((Stage.decode name entry).detail (Registries.decode v) tab) := by
  have hstage := Program.stage?_decode_of_field? ((isReserved_eq_false_iff name).2 hname) h
  exact detail?_visit session actions (Program.nodup_names_decode v) hstage tab

/-! ## All look-ups of one name -/

/-- Whether there is a stage of a name, the document, the program, its descriptors, its graph and
every session that loads it agree; and where there is one, they all lead to it. -/
theorem lookups_agree (v : Json) (name : String) (session : Session)
    (actions : List ExplorerAction) :
    let program := Program.decode v
    let explored := session.explore program actions
    List.TFAE [
        name ∈ v.fields.map Prod.fst ∧ name.toList.head? ≠ some '_',
        (program.stage? name).isSome,
        ∃ descriptor ∈ program.descriptors, descriptor.id = ⟨name⟩,
        (program.graph.node? ⟨name⟩).isSome,
        ((session.load program).dispatch (.selectStage ⟨name⟩)).2 = true,
        explored.Accepts ⟨name⟩] ∧
      ∀ stage, program.stage? name = some stage → stage.name = name ∧
        ∃ descriptor node, program.Shows stage descriptor node ∧
          program.graph.node? ⟨name⟩ = some node ∧
          (explored.dispatch (.selectStage ⟨name⟩)).1.selectedStage? =
            some (descriptor, stage) := by
  intro program explored
  have hgenuine : program.Genuine := .inl ⟨v, rfl⟩
  have hcoherent : explored.Coherent := coherent_explore session hgenuine actions
  have hknown := program.knows_descriptors_iff name
  have hdescriptor : Explorer.knows program.descriptors ⟨name⟩ ↔
      ∃ descriptor ∈ program.descriptors, descriptor.id = ⟨name⟩ := by
    simp [Explorer.knows]
  have hnode := program.node?_isSome_iff ⟨name⟩
  have hchanged := changed_load_iff session program ⟨name⟩
  have haccepts : explored.Accepts ⟨name⟩ ↔ Explorer.knows program.descriptors ⟨name⟩ := by
    rw [hcoherent.accepts_iff, stages_explore]
  refine ⟨?_, fun stage hstage => ?_⟩
  · apply List.tfae_of_forall (Explorer.knows program.descriptors ⟨name⟩)
    simp only [List.forall_mem_cons]
    exact ⟨by rw [hknown, Program.stage?_decode_isSome_iff], hknown.symm, hdescriptor.symm, hnode,
      hchanged, haccepts, by simp⟩
  · obtain rfl := Program.name_of_stage?_eq_some hstage
    obtain ⟨index, hshows⟩ := Program.exists_shows hgenuine.nodup_names hstage
    exact ⟨rfl, _, _, hshows, hshows.node?_eq_some,
      selectedStage?_selectStage session actions hstage hshows⟩

/-- The parser stands last in the document and first in the pipeline; another stage is selected
when it is asked for. -/
theorem lookups_agree_reordered :
    let v : Json := .obj [("deparse", .obj [("type", .str "deparser")]), ("_tables", .null),
      ("parse", .obj [("type", .str " Parser"), ("states", .arr [.str "start"])])]
    let explored := fresh.explore (Program.decode v) [.selectStage ⟨"deparse"⟩, .setTab .flow]
    (Program.decode v).stage? "parse" =
        some ⟨"parse", .parser, [], none, some [⟨"start", none, none⟩], none⟩ ∧
      ∃ descriptor node,
        (Program.decode v).Shows ⟨"parse", .parser, [], none, some [⟨"start", none, none⟩], none⟩
          descriptor node ∧
        (explored.dispatch (.selectStage ⟨"parse"⟩)).1.selectedStage? =
          some (descriptor, ⟨"parse", .parser, [], none, some [⟨"start", none, none⟩], none⟩) := by
  intro v explored
  have hstage : (Program.decode v).stage? "parse" =
      some ⟨"parse", .parser, [], none, some [⟨"start", none, none⟩], none⟩ := by decide
  obtain ⟨_, hfound⟩ :=
    lookups_agree v "parse" fresh [.selectStage ⟨"deparse"⟩, .setTab .flow]
  obtain ⟨_, descriptor, node, hshows, _, hselected⟩ := hfound _ hstage
  exact ⟨hstage, descriptor, node, hshows, hselected⟩

end Session

end StageAtlas
