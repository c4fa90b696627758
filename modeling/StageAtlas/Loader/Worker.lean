import StageAtlas.Loader.Document
import StageAtlas.Path

/-!
# The loading worker

The worker takes commands from a queue and answers each load with one message. It ends at a
shutdown, at the end of the queue, or when nobody listens any more.
-/

namespace StageAtlas.Loader

abbrev Library := Path → Outcome String

inductive Command where
  | load (path : Path)
  | shutdown
  deriving DecidableEq, Repr

inductive Message where
  | loaded (source : Path) (program : Program)
  | failed (source : Path) (error : String)
  deriving DecidableEq

def Message.source : Message → Path
  | loaded source _ => source
  | failed source _ => source

def fetchProgram (library : Library) (path : Path) : Outcome Program :=
  match library path with
  | .error failure => .error failure
  | .ok text => Document.parse text path.fileName?

def answer (library : Library) (path : Path) : Message :=
  match fetchProgram library path with
  | .ok program => .loaded path program
  | .error failure => .failed path failure.message

@[simp] theorem source_answer (library : Library) (path : Path) :
    (answer library path).source = path := by
  unfold answer
  split <;> rfl

/-- What a run of the worker did: the messages it delivered and the paths it fetched. -/
structure Run where
  delivered : List Message
  fetched : List Path
  deriving DecidableEq

/-- The run of the worker over a queue. Without a listener the first message cannot be delivered,
and the worker stops there. -/
def run (library : Library) (listening : Bool) : List Command → Run
  | [] => ⟨[], []⟩
  | .shutdown :: _ => ⟨[], []⟩
  | .load path :: rest =>
      if listening then
        let next := run library listening rest
        ⟨answer library path :: next.delivered, path :: next.fetched⟩
      else ⟨[], [path]⟩

end StageAtlas.Loader
