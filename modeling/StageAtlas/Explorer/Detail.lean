import StageAtlas.Explorer.State
import StageAtlas.Pipeline.References

/-!
# The details of a stage

Four views of one stage, each computed from the stage and the registries alone.
-/

namespace StageAtlas

/-- A parser state as it is told: keywords are no destination. -/
structure ParserStep where
  state : String
  extract : Option String
  transitionsTo : Option String
  deriving DecidableEq, Repr

namespace ParserStep

def isKeyword (transition : String) : Bool := transition == "select" || transition == "accept"

def ofState (state : ParserState) : ParserStep :=
  ⟨state.name, state.extract, state.transition.filter fun t => !isKeyword t⟩

def summary (step : ParserStep) : String :=
  let parts := (step.extract.map fun e => "extracts " ++ e).toList ++
    (step.transitionsTo.map fun t => "transitions to " ++ t).toList
  if parts.isEmpty then step.state else step.state ++ ": " ++ ", ".intercalate parts

end ParserStep

structure DeepDive where
  stageName : String
  kind : StageKind
  explanation : String
  parserSteps : List ParserStep
  applyBody : Option String
  headers : List Header
  externs : List ExternObject
  deriving DecidableEq, Repr

namespace Stage

def explanation (stage : Stage) : String :=
  match stage.kind with
  | .parser =>
      stage.name ++ " is the parser. It reads the incoming packet from the first byte and " ++
      "walks a state machine: each state may extract a header into the packet " ++
      "representation and then selects the next state, until the packet is " ++
      "accepted or rejected. This parser defines " ++ toString stage.stateList.length ++
      " state(s)."
  | .control =>
      stage.name ++ " is a control block. It runs after parsing and applies match-action " ++
      "tables to the extracted headers and metadata: each table matches on its " ++
      "keys and invokes one of its actions, which may rewrite headers, set the " ++
      "egress port or drop the packet. This block references " ++
      toString stage.tables.length ++ " table(s) and " ++ toString stage.actionList.length ++
      " action(s)."
  | .deparser =>
      stage.name ++ " is the deparser. It serializes the valid headers back onto the wire " ++
      "in the order they are emitted, producing the outgoing packet."
  | .other label =>
      stage.name ++ " is a stage of type \"" ++ label ++ "\". No detailed explanation is " ++
      "available for this kind of stage; its tables, actions and flow are listed in the other " ++
      "tabs."

/-- The steps of a parser; no other stage has any. -/
def parserSteps (stage : Stage) : List ParserStep :=
  match stage.kind with
  | .parser => stage.stateList.map ParserStep.ofState
  | _ => []

/-- The text of a control's apply block; no other stage shows any. -/
def applyBody (stage : Stage) : Option String :=
  match stage.kind with
  | .control => stage.applyBlock.bind (·.body)
  | _ => none

def deepDive (stage : Stage) (registries : Registries) : DeepDive :=
  ⟨stage.name, stage.kind, stage.explanation, stage.parserSteps, stage.applyBody,
    registries.headers, registries.externs⟩

end Stage

structure TableCard where
  name : String
  keys : List String
  actions : List String
  size : Option UInt64
  deriving DecidableEq, Repr

/-- The tables of a stage that the registry knows, in the order of the references. -/
def Stage.tableCards (stage : Stage) (registries : Registries) : List TableCard :=
  (registries.resolve stage.tables).map fun entry =>
    ⟨entry.1, entry.2.keys, entry.2.actions, entry.2.size⟩

structure ActionCard where
  name : String
  parameters : List Parameter
  preview : Option String
  deriving DecidableEq, Repr

namespace ActionCard

def ofEntry : ActionEntry → ActionCard
  | .named name => ⟨name, [], none⟩
  | .detailed name parameters preview => ⟨name, parameters, preview⟩

def parameterText (parameter : Parameter) : String :=
  if parameter.type.isEmpty then parameter.name else parameter.type ++ " " ++ parameter.name

def signature (card : ActionCard) : String :=
  if card.parameters.isEmpty then card.name
  else card.name ++ "(" ++ ", ".intercalate (card.parameters.map parameterText) ++ ")"

end ActionCard

def Stage.actionCards (stage : Stage) : List ActionCard := stage.actionList.map ActionCard.ofEntry

structure FlowStep where
  number : Nat
  text : String
  deriving DecidableEq, Repr

/-- The flow of a stage: its steps, or that it has none. -/
inductive FlowView where
  | steps (list : List FlowStep)
  | noExplicitFlow
  deriving DecidableEq, Repr

namespace FlowView

def placeholder : String := "No explicit flow logic for this stage."

def number (texts : List String) : List FlowStep :=
  texts.mapIdx fun index text => ⟨index + 1, text⟩

end FlowView

def Stage.flow (stage : Stage) : FlowView :=
  match stage.applyBlock.bind (·.logic) with
  | some (text :: rest) => .steps (FlowView.number (text :: rest))
  | _ => .noExplicitFlow

inductive DetailView where
  | deepDive (view : DeepDive)
  | tables (cards : List TableCard)
  | actions (cards : List ActionCard)
  | flow (view : FlowView)
  deriving DecidableEq, Repr

def DetailView.tab : DetailView → DetailTab
  | deepDive _ => .deepDive
  | tables _ => .tables
  | actions _ => .actions
  | flow _ => .flow

def Stage.detail (stage : Stage) (registries : Registries) : DetailTab → DetailView
  | .deepDive => .deepDive (stage.deepDive registries)
  | .tables => .tables (stage.tableCards registries)
  | .actions => .actions stage.actionCards
  | .flow => .flow stage.flow

@[simp] theorem Stage.tab_detail (stage : Stage) (registries : Registries) (tab : DetailTab) :
    (stage.detail registries tab).tab = tab := by
  cases tab <;> rfl

end StageAtlas
