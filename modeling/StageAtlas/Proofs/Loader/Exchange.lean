import StageAtlas.Loader.Bridge
import StageAtlas.Proofs.History

/-! # Exchanges over the bridge

The window and the worker move in any order, each as far as the queues let it. A load is somewhere
at every moment: among the commands, in the worker's hand, among the messages or received.
-/

namespace StageAtlas.Loader

inductive Window where
  | free
  /-- A load was started and waits for room. -/
  | loading (path : Path)
  | draining
  deriving DecidableEq

/-- The moves of the window, and the two of the worker. A drain receives one message after the other
until it finds none. -/
inductive Move where
  | startLoad (path : Path)
  | queueLoad
  | startDrain
  | receive
  | finishDrain
  | take
  | deliver
  deriving DecidableEq

/-- The bridge with what has passed over it: the loads that it accepted and the messages that the
window received, the earliest first. -/
structure Exchange where
  bridge : Bridge
  window : Window
  accepted : List Path
  received : List Message

def Command.path? : Command → Option Path
  | .load path => some path
  | .shutdown => none

namespace Exchange

def fresh : Exchange := ⟨.fresh, .free, [], []⟩

def answers (exchange : Exchange) : List Message :=
  exchange.received ++ exchange.bridge.messages ++ exchange.bridge.inHand.toList

/-- The exchange after a move, if the move can be made. What the library holds may change from one
command that the worker takes to the next. -/
def step? (libraries : Nat → Library) (exchange : Exchange) : Move → Option Exchange
  | .startLoad path =>
      if exchange.window = .free then some { exchange with window := .loading path } else none
  | .queueLoad =>
      match exchange.window with
      | .loading path =>
          if exchange.bridge.hasRoom then
            match exchange.bridge.load path with
            | .ok bridge =>
                some { exchange with
                  bridge, window := .free, accepted := exchange.accepted ++ [path] }
            | .error _ => some { exchange with window := .free }
          else none
      | _ => none
  | .startDrain =>
      if exchange.window = .free then some { exchange with window := .draining } else none
  | .receive =>
      match exchange.window, exchange.bridge.receive? with
      | .draining, some (message, bridge) =>
          some { exchange with bridge, received := exchange.received ++ [message] }
      | _, _ => none
  | .finishDrain =>
      match exchange.window, exchange.bridge.receive? with
      | .draining, none => some { exchange with window := .free }
      | _, _ => none
  | .take =>
      (exchange.bridge.take? (libraries exchange.answers.length)).map fun bridge =>
        { exchange with bridge }
  | .deliver => exchange.bridge.deliver?.map fun bridge => { exchange with bridge }

def run? (libraries : Nat → Library) (exchange : Exchange) (moves : List Move) : Option Exchange :=
  moves.foldlM (step? libraries) exchange

variable {libraries : Nat → Library} {exchange next last : Exchange} {move : Move}
  {moves : List Move}

/-! ## What a move needs and what it does -/

/-- A move that can be made while the worker runs, with what it needs. -/
inductive Step (libraries : Nat → Library) (exchange : Exchange) : Move → Exchange → Prop where
  | startLoad (path : Path) (hfree : exchange.window = .free) :
      Step libraries exchange (.startLoad path) { exchange with window := .loading path }
  | queueLoad (path : Path) (hwindow : exchange.window = .loading path)
      (hroom : exchange.bridge.commands.length < capacity) :
      Step libraries exchange .queueLoad
        { exchange with
          bridge :=
            { exchange.bridge with commands := exchange.bridge.commands ++ [.load path] }
          window := .free
          accepted := exchange.accepted ++ [path] }
  | startDrain (hfree : exchange.window = .free) :
      Step libraries exchange .startDrain { exchange with window := .draining }
  | receive (message : Message) (rest : List Message) (hwindow : exchange.window = .draining)
      (hmessages : exchange.bridge.messages = message :: rest) :
      Step libraries exchange .receive
        { exchange with
          bridge := { exchange.bridge with messages := rest }
          received := exchange.received ++ [message] }
  | finishDrain (hwindow : exchange.window = .draining)
      (hmessages : exchange.bridge.messages = []) :
      Step libraries exchange .finishDrain { exchange with window := .free }
  | takeLoad (path : Path) (rest : List Command) (hhand : exchange.bridge.inHand = none)
      (hcommands : exchange.bridge.commands = .load path :: rest) :
      Step libraries exchange .take
        { exchange with
          bridge :=
            { exchange.bridge with
              commands := rest
              inHand := some (answer (libraries exchange.answers.length) path) } }
  | takeShutdown (rest : List Command) (hhand : exchange.bridge.inHand = none)
      (hcommands : exchange.bridge.commands = .shutdown :: rest) :
      Step libraries exchange .take
        { exchange with bridge := { exchange.bridge with commands := rest, running := false } }
  | deliver (message : Message) (hhand : exchange.bridge.inHand = some message)
      (hroom : exchange.bridge.messages.length < capacity) :
      Step libraries exchange .deliver
        { exchange with
          bridge :=
            { exchange.bridge with
              inHand := none
              messages := exchange.bridge.messages ++ [message] } }

theorem Step.of_step? (hrunning : exchange.bridge.running = true)
    (hstep : exchange.step? libraries move = some next) : Step libraries exchange move next := by
  cases move with
  | startLoad path =>
      simp only [step?, Option.ite_none_right_eq_some, Option.some.injEq] at hstep
      obtain ⟨hfree, rfl⟩ := hstep
      exact .startLoad path hfree
  | queueLoad =>
      cases hwindow : exchange.window with
      | loading path =>
          simp only [step?, hwindow, Bridge.load_of_running hrunning,
            Option.ite_none_right_eq_some, Option.some.injEq] at hstep
          obtain ⟨hroom, rfl⟩ := hstep
          exact .queueLoad path hwindow (of_decide_eq_true hroom)
      | free => simp [step?, hwindow] at hstep
      | draining => simp [step?, hwindow] at hstep
  | startDrain =>
      simp only [step?, Option.ite_none_right_eq_some, Option.some.injEq] at hstep
      obtain ⟨hfree, rfl⟩ := hstep
      exact .startDrain hfree
  | receive =>
      simp only [step?] at hstep
      split at hstep
      · rename_i message bridge hwindow hreceive
        obtain ⟨rest, hmessages, rfl⟩ := Bridge.receive?_eq_some_iff.1 hreceive
        obtain rfl := Option.some.inj hstep
        exact .receive message rest hwindow hmessages
      · cases hstep
  | finishDrain =>
      simp only [step?] at hstep
      split at hstep
      · rename_i hwindow hreceive
        obtain rfl := Option.some.inj hstep
        exact .finishDrain hwindow (Bridge.receive?_eq_none_iff.1 hreceive)
      · cases hstep
  | take =>
      obtain ⟨bridge, htake, rfl⟩ := Option.map_eq_some_iff.1 hstep
      obtain ⟨_, hhand, ⟨path, rest, hcommands, rfl⟩ | ⟨rest, hcommands, rfl⟩⟩ :=
        Bridge.take?_eq_some htake
      · exact .takeLoad path rest hhand hcommands
      · exact .takeShutdown rest hhand hcommands
  | deliver =>
      obtain ⟨bridge, hdeliver, rfl⟩ := Option.map_eq_some_iff.1 hstep
      obtain ⟨message, hhand, hroom, rfl⟩ := Bridge.deliver?_eq_some hdeliver
      exact .deliver message hhand hroom

/-! ## Where the loads are -/

/-- The answers to come to the commands that wait, each by the library of its turn. -/
def awaited (libraries : Nat → Library) (exchange : Exchange) : List Message :=
  (exchange.bridge.commands.filterMap Command.path?).mapIdx fun index path =>
    answer (libraries (index + exchange.answers.length)) path

/-- The loads that the worker has taken have their answers, and the others are the commands that
wait. Nobody has asked the worker to stop. -/
structure Conserved (libraries : Nat → Library) (exchange : Exchange) : Prop where
  running : exchange.bridge.running = true
  loads : ∃ taken waiting, exchange.accepted = taken ++ waiting ∧
    exchange.bridge.commands = waiting.map .load ∧
    exchange.answers = taken.mapIdx fun index path => answer (libraries index) path

theorem conserved_fresh (libraries : Nat → Library) : fresh.Conserved libraries :=
  ⟨rfl, [], [], rfl, rfl, rfl⟩

theorem Conserved.step (h : exchange.Conserved libraries)
    (hstep : exchange.step? libraries move = some next) : next.Conserved libraries := by
  obtain ⟨hrunning, taken, waiting, haccepted, hcommands, hanswers⟩ := h
  cases Step.of_step? hrunning hstep with
  | startLoad path hfree => exact ⟨hrunning, taken, waiting, haccepted, hcommands, hanswers⟩
  | queueLoad path hwindow hroom =>
      refine ⟨hrunning, taken, waiting ++ [path], ?_, ?_, hanswers⟩
      · simp [haccepted]
      · simp [hcommands]
  | startDrain hfree => exact ⟨hrunning, taken, waiting, haccepted, hcommands, hanswers⟩
  | receive message rest hwindow hmessages =>
      refine ⟨hrunning, taken, waiting, haccepted, hcommands, ?_⟩
      rw [← hanswers, answers, answers, hmessages]
      simp
  | finishDrain hwindow hmessages =>
      exact ⟨hrunning, taken, waiting, haccepted, hcommands, hanswers⟩
  | takeLoad path rest hhand htaken =>
      -- The load in front moves from those that wait to those that are taken.
      obtain ⟨front, others, hwaiting⟩ : ∃ front others, waiting = front :: others := by
        cases waiting with
        | nil => simp [hcommands] at htaken
        | cons front others => exact ⟨front, others, rfl⟩
      subst hwaiting
      rw [htaken, List.map_cons, List.cons.injEq, Command.load.injEq] at hcommands
      obtain ⟨rfl, hrest⟩ := hcommands
      have hlength : exchange.answers.length = taken.length := by
        rw [hanswers, List.length_mapIdx]
      refine ⟨hrunning, taken ++ [path], others, by simp [haccepted], hrest, ?_⟩
      rw [List.mapIdx_concat, ← hanswers, ← hlength]
      simp [answers, hhand]
  | takeShutdown rest hhand htaken =>
      cases waiting <;> simp [hcommands] at htaken
  | deliver message hhand hroom =>
      refine ⟨hrunning, taken, waiting, haccepted, hcommands, ?_⟩
      rw [← hanswers]
      simp [answers, hhand]

theorem Conserved.run (h : exchange.Conserved libraries)
    (hrun : exchange.run? libraries moves = some last) : last.Conserved libraries :=
  History.invariant_of_foldlM (P := fun _ exchange => exchange.Conserved libraries)
    (fun _ _ _ _ hbefore hstep => hbefore.step hstep) [] h hrun

/-- Answers that were made and answers to come are one for each load, in the order of the loads. -/
theorem Conserved.answers_append_awaited (h : exchange.Conserved libraries) :
    exchange.answers ++ exchange.awaited libraries =
      exchange.accepted.mapIdx fun index path => answer (libraries index) path := by
  obtain ⟨taken, waiting, haccepted, hcommands, hanswers⟩ := h.loads
  have hlength : exchange.answers.length = taken.length := by rw [hanswers, List.length_mapIdx]
  have hpaths : exchange.bridge.commands.filterMap Command.path? = waiting := by
    simp [hcommands, Command.path?, Function.comp_def]
  rw [awaited, hpaths, hlength, haccepted, List.mapIdx_append, ← hanswers]

theorem Conserved.length_received_le (h : exchange.Conserved libraries) :
    exchange.received.length ≤ exchange.accepted.length := by
  have hlength := congrArg List.length h.answers_append_awaited
  simp only [answers, List.length_append, List.length_mapIdx] at hlength
  omega

end Exchange

end StageAtlas.Loader
