import StageAtlas.Loader.Worker
import StageAtlas.Text.Quoted

/-!
# The bridge to the worker

Two queues join the window and the worker: commands one way, messages the other. Both hold a fixed
number; whoever finds one full waits. Between the queues the worker holds the message it has made
and not yet delivered.
-/

namespace StageAtlas.Loader

def capacity : Nat := 16

/-- The queues, what the worker holds, and whether it is still there. -/
structure Bridge where
  commands : List Command
  inHand : Option Message
  messages : List Message
  running : Bool

namespace Bridge

def fresh : Bridge := ⟨[], none, [], true⟩

instance : Inhabited Bridge := ⟨fresh⟩

/-- Whether a command finds room; if not, whoever sends it waits. -/
def hasRoom (bridge : Bridge) : Bool := bridge.commands.length < capacity

def describe : Command → String
  | .load path => "LoadFile(" ++ Text.quote path ++ ")"
  | .shutdown => "Shutdown"

/-- The bridge with one more command, once there is room for it. Fails when the worker is gone. -/
def send (bridge : Bridge) (command : Command) : Outcome Bridge :=
  if bridge.running then .ok { bridge with commands := bridge.commands ++ [command] }
  else .error (.channel ("loader is not running (" ++ describe command ++ ")"))

def load (bridge : Bridge) (path : Path) : Outcome Bridge := bridge.send (.load path)

theorem load_of_running {bridge : Bridge} (h : bridge.running = true) (path : Path) :
    bridge.load path = .ok { bridge with commands := bridge.commands ++ [.load path] } := by
  rw [load, send, if_pos h]

theorem load_of_stopped {bridge : Bridge} (h : bridge.running = false) (path : Path) :
    bridge.load path =
      .error (.channel ("loader is not running (" ++ describe (.load path) ++ ")")) := by
  simp [load, send, h]

def drain (bridge : Bridge) : List Message × Bridge :=
  (bridge.messages, { bridge with messages := [] })

def receive? (bridge : Bridge) : Option (Message × Bridge) :=
  match bridge.messages with
  | [] => none
  | message :: rest => some (message, { bridge with messages := rest })

theorem receive?_eq_none_iff {bridge : Bridge} : bridge.receive? = none ↔ bridge.messages = [] := by
  cases h : bridge.messages <;> simp [receive?, h]

theorem receive?_eq_some_iff {bridge next : Bridge} {message : Message} :
    bridge.receive? = some (message, next) ↔
      ∃ rest, bridge.messages = message :: rest ∧ next = { bridge with messages := rest } := by
  cases h : bridge.messages <;> simp [receive?, h, eq_comm, and_assoc]

/-- A drain takes one message after the other, as long as there is one. -/
theorem drain_eq_receive? (bridge : Bridge) :
    bridge.drain =
      match bridge.receive? with
      | none => ([], bridge)
      | some (message, next) => (message :: next.drain.1, next.drain.2) := by
  obtain ⟨commands, inHand, messages, running⟩ := bridge
  cases messages <;> rfl

/-- The worker takes the next command, if its hands are free. -/
def take? (library : Library) (bridge : Bridge) : Option Bridge :=
  if bridge.running then
    match bridge.inHand, bridge.commands with
    | none, .load path :: rest =>
        some { bridge with commands := rest, inHand := some (answer library path) }
    | none, .shutdown :: rest => some { bridge with commands := rest, running := false }
    | _, _ => none
  else none

theorem take?_eq_some {library : Library} {bridge next : Bridge}
    (h : bridge.take? library = some next) :
    bridge.running = true ∧ bridge.inHand = none ∧
      ((∃ path rest, bridge.commands = .load path :: rest ∧
          next = { bridge with commands := rest, inHand := some (answer library path) }) ∨
        ∃ rest, bridge.commands = .shutdown :: rest ∧
          next = { bridge with commands := rest, running := false }) := by
  unfold take? at h
  split at h
  · rename_i hrunning
    refine ⟨hrunning, ?_⟩
    split at h
    · rename_i path rest hhand hcommands
      exact ⟨hhand, .inl ⟨path, rest, hcommands, (Option.some.inj h).symm⟩⟩
    · rename_i rest hhand hcommands
      exact ⟨hhand, .inr ⟨rest, hcommands, (Option.some.inj h).symm⟩⟩
    · cases h
  · cases h

/-- The worker delivers what it holds, if there is room. -/
def deliver? (bridge : Bridge) : Option Bridge :=
  match bridge.inHand with
  | some message =>
      if bridge.messages.length < capacity then
        some { bridge with inHand := none, messages := bridge.messages ++ [message] }
      else none
  | none => none

theorem deliver?_eq_some {bridge next : Bridge} (h : bridge.deliver? = some next) :
    ∃ message, bridge.inHand = some message ∧ bridge.messages.length < capacity ∧
      next = { bridge with inHand := none, messages := bridge.messages ++ [message] } := by
  unfold deliver? at h
  split at h
  · rename_i message hhand
    split at h
    · rename_i hroom
      exact ⟨message, hhand, hroom, (Option.some.inj h).symm⟩
    · cases h
  · cases h

/-- What the worker does on its own, for a number of steps at most. -/
def workFor (library : Library) : Nat → Bridge → Bridge
  | 0, bridge => bridge
  | count + 1, bridge =>
      match bridge.deliver? with
      | some next => workFor library count next
      | none =>
          match bridge.take? library with
          | some next => workFor library count next
          | none => bridge

def work (library : Library) (bridge : Bridge) : Bridge :=
  workFor library (2 * bridge.commands.length + 1) bridge

/-- The bridge after the worker has gone, with all that it had not done. -/
def abandon (bridge : Bridge) : Bridge :=
  { bridge with commands := [], inHand := none, running := false }

end Bridge

end StageAtlas.Loader
