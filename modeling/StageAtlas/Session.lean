import StageAtlas.Explorer.Detail
import StageAtlas.Pipeline.Graph
import StageAtlas.Pipeline.Overview

/-!
# Sessions

A session holds the loaded program with what is derived from it, and the explorer. Loading and
unloading start the explorer afresh.
-/

namespace StageAtlas

/-- Whether there is a program, and whether it has stages. -/
inductive LoadStatus where
  | notLoaded
  | loadedEmpty
  | loaded
  deriving DecidableEq, Repr

structure LoadedProgram where
  program : Program
  stages : List StageDescriptor
  graph : PipelineGraph
  overview : Overview

namespace LoadedProgram

def derive (program : Program) : LoadedProgram :=
  let stages := program.descriptors
  ⟨program, stages, .build program.registries stages, .of program.registries stages⟩

/-- The name of a program whose document gives none. -/
def untitled : String := "untitled"

def title (loaded : LoadedProgram) : String := loaded.program.filename.getD untitled

end LoadedProgram

structure Session where
  loaded : Option LoadedProgram
  explorer : Explorer

namespace Session

def fresh : Session := ⟨none, .initial⟩

instance : Inhabited Session := ⟨fresh⟩

def load (_ : Session) (program : Program) : Session := ⟨some (.derive program), .initial⟩

def unload (_ : Session) : Session := fresh

def status (session : Session) : LoadStatus :=
  match session.loaded with
  | none => .notLoaded
  | some loaded => if loaded.stages.isEmpty then .loadedEmpty else .loaded

def stages (session : Session) : List StageDescriptor :=
  match session.loaded with
  | none => []
  | some loaded => loaded.stages

/-- The session after a request to the explorer, and whether it changed the explorer. -/
def dispatch (session : Session) (action : ExplorerAction) : Session × Bool :=
  let (explorer, changed) := session.explorer.dispatch action session.stages
  ({ session with explorer }, changed)

theorem fst_dispatch (session : Session) (action : ExplorerAction) :
    (session.dispatch action).1 =
      { session with explorer := session.explorer.apply session.stages action } :=
  rfl

theorem snd_dispatch (session : Session) (action : ExplorerAction) :
    (session.dispatch action).2 =
      (session.explorer.apply session.stages action != session.explorer) :=
  congrArg Prod.snd (session.explorer.dispatch_eq action session.stages)

def selectStage (session : Session) (id : StageId) : Session × Bool :=
  session.dispatch (.selectStage id)

def clearSelection (session : Session) : Session × Bool := session.dispatch .clearSelection

def setTab (session : Session) (tab : DetailTab) : Session × Bool := session.dispatch (.setTab tab)

def setMode (session : Session) (mode : ViewMode) : Session × Bool :=
  session.dispatch (.setMode mode)

/-- The descriptor of the selected stage together with the stage itself. -/
def selectedStage? (session : Session) : Option (StageDescriptor × Stage) := do
  let loaded ← session.loaded
  let id ← session.explorer.selected
  let descriptor ← loaded.stages.find? (·.id = id)
  let stage ← loaded.program.stage? id.name
  return (descriptor, stage)

/-- The view of the active tab, if the detail panel is shown. -/
def detail? (session : Session) : Option DetailView :=
  if session.explorer.detailVisible then do
    let loaded ← session.loaded
    let (_, stage) ← session.selectedStage?
    return stage.detail loaded.program.registries session.explorer.tab
  else none

inductive Event where
  | load (program : Program)
  | unload
  | act (action : ExplorerAction)

def step (session : Session) : Event → Session
  | .load program => session.load program
  | .unload => session.unload
  | .act action => (session.dispatch action).1

def run (session : Session) (events : List Event) : Session := events.foldl step session

@[simp] theorem run_nil (session : Session) : session.run [] = session := rfl

@[simp] theorem run_cons (session : Session) (event : Event) (events : List Event) :
    session.run (event :: events) = (session.step event).run events := rfl

end Session

end StageAtlas
