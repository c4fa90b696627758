import Mathlib.Data.List.Forall2
import StageAtlas.Proofs.Loader.Exchange

/-! # Commands are carried out

The worker answers the loads in its queue one after the other up to the first shutdown, whether they
fail or not, and leaves alone what comes behind. Between the queues of the bridge it gets on only as
far as there is room, but what it answers does not depend on when its messages are taken.
-/

namespace StageAtlas.Loader

/-! ## One answer -/

/-- What is told of a path: the program in its document, or what kept the worker from reading it. -/
inductive Answers (library : Library) (path : Path) : Message → Prop where
  | loaded (text : String) (program : Program) (hread : library path = .ok text)
      (hparse : Document.parse text path.fileName? = .ok program) :
      Answers library path (.loaded path program)
  | unread (failure : Failure) (hread : library path = .error failure) :
      Answers library path (.failed path failure.message)
  | rejected (text : String) (failure : Failure) (hread : library path = .ok text)
      (hparse : Document.parse text path.fileName? = .error failure) :
      Answers library path (.failed path failure.message)

theorem answers_iff {library : Library} {path : Path} {message : Message} :
    Answers library path message ↔ message = answer library path := by
  constructor
  · intro h
    cases h with
    | loaded text program hread hparse => simp [answer, fetchProgram, hread, hparse]
    | unread failure hread => simp [answer, fetchProgram, hread]
    | rejected text failure hread hparse => simp [answer, fetchProgram, hread, hparse]
  · rintro rfl
    cases hread : library path with
    | error failure => simpa [answer, fetchProgram, hread] using Answers.unread failure hread
    | ok text =>
        cases hparse : Document.parse text path.fileName? with
        | ok program =>
            simpa [answer, fetchProgram, hread, hparse] using
              Answers.loaded text program hread hparse
        | error failure =>
            simpa [answer, fetchProgram, hread, hparse] using
              Answers.rejected text failure hread hparse

theorem forall₂_answers_iff {library : Library} {paths : List Path} {messages : List Message} :
    List.Forall₂ (Answers library) paths messages ↔ messages = paths.map (answer library) := by
  have hanswers : Answers library = fun path message => answer library path = message := by
    funext path message
    exact propext (answers_iff.trans eq_comm)
  rw [hanswers, ← List.forall₂_map_left_iff (R := Eq), List.forall₂_eq_eq_eq, eq_comm]

/-! ## One queue -/

/-- The loads in a queue up to the first shutdown. -/
def dueLoads (commands : List Command) : List Path :=
  (commands.takeWhile (· ≠ .shutdown)).filterMap Command.path?

def leftAlone (commands : List Command) : List Command := (commands.dropWhile (· ≠ .shutdown)).tail

@[simp] theorem dueLoads_nil : dueLoads [] = [] := rfl

@[simp] theorem dueLoads_load (path : Path) (rest : List Command) :
    dueLoads (.load path :: rest) = path :: dueLoads rest := rfl

@[simp] theorem dueLoads_shutdown (rest : List Command) : dueLoads (.shutdown :: rest) = [] := rfl

theorem run_listening (library : Library) (commands : List Command) :
    run library true commands = ⟨(dueLoads commands).map (answer library), dueLoads commands⟩ := by
  induction commands with
  | nil => rfl
  | cons command rest ih =>
      cases command with
      | shutdown => rfl
      | load path => simp [run, ih]

theorem run_alone (library : Library) (commands : List Command) :
    run library false commands = ⟨[], (dueLoads commands).head?.toList⟩ := by
  cases commands with
  | nil => rfl
  | cons command rest => cases command <;> rfl

/-! ## The bridge -/

namespace Bridge

variable {library : Library} {bridge next : Bridge} {message : Message}

def opened (commands : List Command) : Bridge := ⟨commands, none, [], true⟩

/-- The bridge once the worker has nothing left to do, with room for all its messages. -/
def completed (library : Library) (bridge : Bridge) : Bridge :=
  let made := bridge.messages ++ bridge.inHand.toList
  if bridge.running then
    ⟨leftAlone bridge.commands, none, made ++ (dueLoads bridge.commands).map (answer library),
      !bridge.commands.contains .shutdown⟩
  else ⟨bridge.commands, none, made, false⟩

/-- How many moves the worker can make at most. -/
def effort (bridge : Bridge) : Nat := 2 * bridge.commands.length + bridge.inHand.toList.length

theorem completed_opened (library : Library) (commands : List Command) :
    (opened commands).completed library =
      ⟨leftAlone commands, none, (run library true commands).delivered,
        !commands.contains .shutdown⟩ := by
  rw [run_listening]
  rfl

theorem completed_of_take? (h : bridge.take? library = some next) :
    next.completed library = bridge.completed library := by
  obtain ⟨hrunning, hhand, ⟨path, rest, hcommands, rfl⟩ | ⟨rest, hcommands, rfl⟩⟩ :=
    take?_eq_some h
  · simp [completed, hrunning, hhand, hcommands, leftAlone]
  · simp [completed, hrunning, hhand, hcommands, leftAlone]

theorem completed_of_deliver? (h : bridge.deliver? = some next) :
    next.completed library = bridge.completed library := by
  obtain ⟨message, hhand, _, rfl⟩ := deliver?_eq_some h
  simp [completed, hhand]

theorem completed_of_receive? (library : Library) (h : bridge.receive? = some (message, next)) :
    bridge.completed library =
      { next.completed library with messages := message :: (next.completed library).messages } := by
  obtain ⟨rest, hmessages, rfl⟩ := receive?_eq_some_iff.1 h
  cases hrunning : bridge.running <;> simp [completed, hmessages, hrunning]

theorem effort_lt_of_take? (h : bridge.take? library = some next) :
    next.effort < bridge.effort := by
  obtain ⟨_, hhand, ⟨path, rest, hcommands, rfl⟩ | ⟨rest, hcommands, rfl⟩⟩ := take?_eq_some h
  · simp only [effort, hhand, hcommands, Option.toList_some, Option.toList_none, List.length_cons,
      List.length_nil]
    omega
  · simp only [effort, hcommands, List.length_cons]
    omega

theorem effort_lt_of_deliver? (h : bridge.deliver? = some next) : next.effort < bridge.effort := by
  obtain ⟨message, hhand, _, rfl⟩ := deliver?_eq_some h
  simp [effort, hhand]

theorem effort_of_receive? (h : bridge.receive? = some (message, next)) :
    next.effort = bridge.effort := by
  obtain ⟨rest, _, rfl⟩ := receive?_eq_some_iff.1 h
  rfl

theorem inHand_eq_none (hdeliver : bridge.deliver? = none)
    (hroom : bridge.messages.length < capacity) : bridge.inHand = none := by
  cases hhand : bridge.inHand with
  | none => rfl
  | some message => simp [deliver?, hhand, hroom] at hdeliver

theorem made_prefix_completed (library : Library) (bridge : Bridge) :
    bridge.messages ++ bridge.inHand.toList <+: (bridge.completed library).messages := by
  rw [completed]
  split
  · exact List.prefix_append _ _
  · exact List.prefix_rfl

theorem completed_eq_self (hhand : bridge.inHand = none) (htake : bridge.take? library = none) :
    bridge.completed library = bridge := by
  obtain ⟨commands, inHand, messages, running⟩ := bridge
  obtain rfl : inHand = none := hhand
  cases running with
  | false => simp [completed]
  | true =>
      cases commands with
      | nil => simp [completed, leftAlone]
      | cons command rest => cases command <;> simp [take?] at htake

/-- With room for all its messages the worker does everything on its own. -/
theorem workFor_eq_completed {count : Nat} (hcount : bridge.effort < count)
    (hroom : (bridge.completed library).messages.length ≤ capacity) :
    bridge.workFor library count = bridge.completed library := by
  induction count generalizing bridge with
  | zero => omega
  | succ count ih =>
      rw [workFor]
      split
      · rename_i next hdeliver
        have heffort := effort_lt_of_deliver? hdeliver
        rw [← completed_of_deliver? hdeliver] at hroom ⊢
        exact ih (by omega) hroom
      · rename_i hdeliver
        split
        · rename_i next htake
          have heffort := effort_lt_of_take? htake
          rw [← completed_of_take? htake] at hroom ⊢
          exact ih (by omega) hroom
        · rename_i htake
          -- An answer in hand has its room, so it would have been delivered.
          have hhand : bridge.inHand = none := by
            by_contra hheld
            obtain ⟨message, hmessage⟩ := Option.ne_none_iff_exists'.1 hheld
            have hmade := (made_prefix_completed library bridge).length_le
            rw [hmessage, List.length_append, Option.toList_some, List.length_singleton] at hmade
            exact hheld (inHand_eq_none hdeliver (by omega))
          exact (completed_eq_self hhand htake).symm

end Bridge

/-! ## Any order of moves -/

/-- The moves by which queued commands are carried out: those of the worker, and the receipt of its
messages. -/
def Move.serves : Move → Bool
  | take => true
  | deliver => true
  | receive => true
  | _ => false

namespace Exchange

variable {library : Library} {commands : List Command} {exchange next last : Exchange}
  {move : Move} {past moves : List Move}

def opened (commands : List Command) : Exchange :=
  ⟨.opened commands, .draining, commands.filterMap Command.path?, []⟩

/-- What was received and what is still to come is what the commands come to. -/
structure Serving (library : Library) (commands : List Command) (past : List Move)
    (exchange : Exchange) : Prop where
  window : exchange.window = .draining
  completed : (Bridge.opened commands).completed library =
    { exchange.bridge.completed library with
      messages := exchange.received ++ (exchange.bridge.completed library).messages }
  effort : past.length + exchange.bridge.effort ≤
    2 * commands.length + exchange.received.length

theorem serving_opened (library : Library) (commands : List Command) :
    (opened commands).Serving library commands [] :=
  ⟨rfl, rfl, by simp [opened, Bridge.opened, Bridge.effort]⟩

/-- A move of the worker leaves what everything comes to, with less to do. -/
theorem Serving.of_worker (h : exchange.Serving library commands past) {bridge : Bridge}
    (hcompleted : bridge.completed library = exchange.bridge.completed library)
    (hless : bridge.effort < exchange.bridge.effort) (move : Move) :
    { exchange with bridge }.Serving library commands (past ++ [move]) := by
  have heffort := h.effort
  refine ⟨h.window, ?_, ?_⟩
  · rw [h.completed, hcompleted]
  · rw [List.length_append, List.length_singleton]
    show past.length + 1 + bridge.effort ≤ 2 * commands.length + exchange.received.length
    omega

theorem Serving.step (h : exchange.Serving library commands past) (hserves : move.serves = true)
    (hstep : exchange.step? (fun _ => library) move = some next) :
    next.Serving library commands (past ++ [move]) := by
  cases move with
  | take =>
      obtain ⟨bridge, htake, rfl⟩ := Option.map_eq_some_iff.1 hstep
      exact h.of_worker (Bridge.completed_of_take? htake) (Bridge.effort_lt_of_take? htake) .take
  | deliver =>
      obtain ⟨bridge, hdeliver, rfl⟩ := Option.map_eq_some_iff.1 hstep
      exact h.of_worker (Bridge.completed_of_deliver? hdeliver)
        (Bridge.effort_lt_of_deliver? hdeliver) .deliver
  | receive =>
      have heffort := h.effort
      simp only [step?, h.window] at hstep
      split at hstep
      · rename_i message bridge _ hreceive
        obtain rfl := Option.some.inj hstep
        refine ⟨rfl, ?_, ?_⟩
        · rw [h.completed, Bridge.completed_of_receive? library hreceive]
          simp
        · simp only [List.length_append, List.length_singleton,
            Bridge.effort_of_receive? hreceive]
          omega
      · cases hstep
  | _ => cases hserves

theorem serving_run (hrun : (opened commands).run? (fun _ => library) moves = some last)
    (hserves : ∀ move ∈ moves, move.serves = true) : last.Serving library commands moves := by
  have hlast := History.invariant_of_foldlM
    (P := fun past exchange =>
      (∀ move ∈ past, move.serves = true) → exchange.Serving library commands past)
    (fun past exchange move next hbefore hstep hall => by
      have hpast := hbefore fun earlier hearlier => hall earlier (List.mem_append_left _ hearlier)
      exact hpast.step (hall move (by simp)) hstep)
    [] (fun _ => serving_opened library commands) hrun
  exact hlast hserves

theorem Serving.received_append (h : exchange.Serving library commands past) :
    (run library true commands).delivered =
      exchange.received ++ (exchange.bridge.completed library).messages := by
  have hmessages := congrArg Bridge.messages h.completed
  rwa [Bridge.completed_opened] at hmessages

theorem Serving.answers_prefix (h : exchange.Serving library commands past) :
    exchange.answers <+: (run library true commands).delivered := by
  rw [h.received_append, answers, List.append_assoc]
  exact (List.prefix_append_right_inj _).2 (Bridge.made_prefix_completed library exchange.bridge)

theorem Serving.length_le (h : exchange.Serving library commands past) :
    past.length ≤ 2 * commands.length + (dueLoads commands).length := by
  have hreceived := congrArg List.length h.received_append
  rw [run_listening, List.length_map, List.length_append] at hreceived
  have heffort := h.effort
  omega

theorem Serving.finished (h : exchange.Serving library commands past)
    (hstop : ∀ move, move.serves = true → exchange.step? (fun _ => library) move = none) :
    exchange.received = (run library true commands).delivered ∧
      exchange.bridge = ⟨leftAlone commands, none, [], !commands.contains .shutdown⟩ := by
  have hmessages : exchange.bridge.messages = [] := by
    have hreceive := hstop .receive rfl
    cases hmessages : exchange.bridge.messages with
    | nil => rfl
    | cons message rest => simp [step?, h.window, Bridge.receive?, hmessages] at hreceive
  have htake : exchange.bridge.take? library = none := Option.map_eq_none_iff.1 (hstop .take rfl)
  have hdeliver : exchange.bridge.deliver? = none :=
    Option.map_eq_none_iff.1 (hstop .deliver rfl)
  have hhand := Bridge.inHand_eq_none hdeliver (by simp [hmessages, capacity])
  have hcompleted := h.completed
  rw [Bridge.completed_eq_self hhand htake, Bridge.completed_opened, hmessages,
    List.append_nil] at hcompleted
  obtain ⟨hcommands, -, hreceived, hrunning⟩ := Bridge.mk.inj hcompleted
  exact ⟨hreceived.symm, by rw [hcommands, hrunning, ← hmessages, ← hhand]⟩

end Exchange

/-- With a listener the worker answers each load up to the first shutdown with one message, in
order, and touches nothing behind it; without one it stops at the first load. Between the queues,
whatever the order of moves, at every moment a first part of these messages is made, and when no
move is left, all of them have arrived. If there is room for all, nobody needs to take them
meanwhile. -/
theorem commands_carried_out (library : Library) (commands : List Command) :
    let done := run library true commands
    List.Forall₂ (Answers library) (dueLoads commands) done.delivered ∧
      done.fetched = dueLoads commands ∧
      run library false commands = ⟨[], (dueLoads commands).head?.toList⟩ ∧
      (∀ moves last, (Exchange.opened commands).run? (fun _ => library) moves = some last →
        (∀ move ∈ moves, move.serves = true) →
          last.answers <+: done.delivered ∧
          moves.length ≤ 2 * commands.length + (dueLoads commands).length ∧
          ((∀ move, move.serves = true → last.step? (fun _ => library) move = none) →
            last.received = done.delivered ∧
              last.bridge = ⟨leftAlone commands, none, [], !commands.contains .shutdown⟩)) ∧
      ((dueLoads commands).length ≤ capacity →
        Bridge.work library (.opened commands) =
          ⟨leftAlone commands, none, done.delivered, !commands.contains .shutdown⟩) := by
  intro done
  refine ⟨?_, ?_, run_alone library commands, fun moves last hrun hserves => ?_, fun hroom => ?_⟩
  · exact forall₂_answers_iff.2 (congrArg Run.delivered (run_listening library commands))
  · exact congrArg Run.fetched (run_listening library commands)
  · have hserving := Exchange.serving_run hrun hserves
    exact ⟨hserving.answers_prefix, hserving.length_le, hserving.finished⟩
  · rw [← Bridge.completed_opened]
    apply Bridge.workFor_eq_completed
    · simp [Bridge.effort, Bridge.opened]
    · rw [Bridge.completed_opened, run_listening, List.length_map]
      exact hroom

/-- A document that is there and one that is not, then a shutdown and a load that is left alone. -/
theorem commands_carried_out_mixed :
    let library : Library := fun path =>
      if path = "b.json" then .error (.document "connection refused") else .ok "null"
    let commands : List Command := [.load "a.json", .load "b.json", .shutdown, .load "c.json"]
    let moves : List Move := [.take, .deliver, .take, .receive, .deliver, .receive, .take]
    let delivered : List Message :=
      [.loaded "a.json" ⟨[], .empty, some "a.json"⟩,
        .failed "b.json" (Failure.document "connection refused").message]
    (∀ move ∈ moves, move.serves = true) ∧
      (run library true commands).delivered = delivered ∧
      (∃ last, (Exchange.opened commands).run? (fun _ => library) moves = some last ∧
        (∀ move, move.serves = true → last.step? (fun _ => library) move = none) ∧
        last.received = delivered ∧ last.bridge.commands = [.load "c.json"]) ∧
      (Bridge.work library (.opened commands)).messages = delivered := by
  intro library commands moves delivered
  have hserves : ∀ move ∈ moves, move.serves = true := by decide
  have hdelivered : (run library true commands).delivered = delivered := by decide +kernel
  obtain ⟨_, _, _, hmoves, hwork⟩ := commands_carried_out library commands
  let last : Exchange := ⟨⟨[.load "c.json"], none, [], false⟩, .draining,
    ["a.json", "b.json", "c.json"], [answer library "a.json", answer library "b.json"]⟩
  have hrun : (Exchange.opened commands).run? (fun _ => library) moves = some last := rfl
  have hstop : ∀ move, move.serves = true → last.step? (fun _ => library) move = none := by
    intro move hmove
    cases move with
    | take => rfl
    | deliver => rfl
    | receive => rfl
    | _ => cases hmove
  obtain ⟨_, _, hfinished⟩ := hmoves moves last hrun hserves
  obtain ⟨hreceived, _⟩ := hfinished hstop
  refine ⟨hserves, hdelivered, ⟨last, hrun, hstop, hreceived.trans hdelivered, rfl⟩, ?_⟩
  rw [hwork (by decide), hdelivered]

end StageAtlas.Loader
