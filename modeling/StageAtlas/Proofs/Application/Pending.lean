import StageAtlas.Application.State
import StageAtlas.Proofs.Loader.Exchange

/-! # Loads that are pending

The application counts the loads that it has queued and whose messages it has not handled. The count
changes at other moments than the queues do, and yet it never loses track of them.
-/

namespace StageAtlas.Application

open Loader (Exchange Library Message Window answer)

/-- The application with what has passed over its bridge, and with the messages that it received and
has still to handle. -/
structure Traffic where
  app : Application
  window : Window
  accepted : List Path
  received : List Message
  unhandled : List Message

namespace Traffic

def fresh (preferences : Preferences) : Traffic :=
  ⟨.fresh preferences, .free, [], [], []⟩

def exchange (traffic : Traffic) : Exchange :=
  ⟨traffic.app.bridge, traffic.window, traffic.accepted, traffic.received⟩

/-- A move at the bridge, or a message or a request that the application handles. -/
inductive Move where
  | bridge (move : Loader.Move)
  | handleMessage
  | handleRequest (request : Request)

/-- What a move at the bridge leaves. A load is queued by the request to open its file; whatever
else happens to the bridge passes the application by. -/
def adopt (traffic : Traffic) (move : Loader.Move) (next : Exchange) : Traffic where
  app :=
    match move, traffic.window with
    | .queueLoad, .loading path => traffic.app.handle (.openFile path)
    | _, _ => { traffic.app with bridge := next.bridge }
  window := next.window
  accepted := next.accepted
  received := next.received
  unhandled := traffic.unhandled ++ next.received.drop traffic.received.length

/-- The traffic after a move, if the move can be made. A file is opened by moves at the bridge. -/
def step? (libraries : Nat → Library) (traffic : Traffic) : Move → Option Traffic
  | .bridge move => (traffic.exchange.step? libraries move).map (traffic.adopt move)
  | .handleMessage =>
      match traffic.unhandled with
      | [] => none
      | message :: rest =>
          some { traffic with app := traffic.app.receive message, unhandled := rest }
  | .handleRequest (.openFile _) => none
  | .handleRequest request => some { traffic with app := traffic.app.handle request }

def run? (libraries : Nat → Library) (traffic : Traffic) (moves : List Move) : Option Traffic :=
  moves.foldlM (step? libraries) traffic

variable {libraries : Nat → Library} {traffic next last : Traffic} {move : Move}
  {moves : List Move}

/-! ## One move -/

theorem exchange_adopt {move : Loader.Move} {next : Exchange}
    (hstep : traffic.exchange.step? libraries move = some next) :
    (traffic.adopt move next).exchange = next := by
  cases move with
  | queueLoad =>
      cases hwindow : traffic.window with
      | loading path =>
          simp only [Exchange.step?, exchange, hwindow, Option.ite_none_right_eq_some] at hstep
          obtain ⟨_, hstep⟩ := hstep
          cases hload : traffic.app.bridge.load path with
          | ok bridge =>
              simp only [hload, Option.some.injEq] at hstep
              simp [adopt, exchange, hwindow, handle, hload, ← hstep]
          | error failure =>
              simp only [hload, Option.some.injEq] at hstep
              simp [adopt, exchange, hwindow, handle, hload, ← hstep]
      | free => simp [Exchange.step?, exchange, hwindow] at hstep
      | draining => simp [Exchange.step?, exchange, hwindow] at hstep
  | _ => rfl

theorem pendingLoads_openFile {app : Application} (hrunning : app.bridge.running = true)
    (path : Path) : (app.handle (.openFile path)).pendingLoads = app.pendingLoads + 1 := by
  simp only [handle, Loader.Bridge.load_of_running hrunning]

/-- The loads of the bridge are conserved, and the count is of those whose messages are not handled:
they are still under way, or received and waiting. -/
structure Settled (libraries : Nat → Library) (traffic : Traffic) : Prop where
  conserved : traffic.exchange.Conserved libraries
  pending : traffic.app.pendingLoads + traffic.received.length =
    traffic.accepted.length + traffic.unhandled.length

theorem settled_fresh (preferences : Preferences) : (fresh preferences).Settled libraries :=
  ⟨Loader.Exchange.conserved_fresh libraries, rfl⟩

/-- A message that waits was counted, so there is something to count down. -/
theorem Settled.length_unhandled_le (h : traffic.Settled libraries) :
    traffic.unhandled.length ≤ traffic.app.pendingLoads := by
  have hreceived : traffic.received.length ≤ traffic.accepted.length :=
    h.conserved.length_received_le
  have hpending := h.pending
  omega

theorem Settled.adopt {move : Loader.Move} {next : Exchange} (h : traffic.Settled libraries)
    (hstep : traffic.exchange.step? libraries move = some next) :
    (traffic.adopt move next).Settled libraries := by
  have hnext : (traffic.adopt move next).exchange = next := exchange_adopt hstep
  refine ⟨by rw [hnext]; exact h.conserved.step hstep, ?_⟩
  have hpending := h.pending
  have hrunning := h.conserved.running
  -- Only a load that is queued and a message that is received have a part in the count.
  cases Exchange.Step.of_step? hrunning hstep with
  | queueLoad path hwindow hroom =>
      have hloading : traffic.window = .loading path := hwindow
      simp only [Traffic.adopt, exchange, hloading, pendingLoads_openFile hrunning,
        List.drop_length, List.append_nil, List.length_append, List.length_singleton]
      omega
  | receive message rest hwindow hmessages =>
      simp only [Traffic.adopt, exchange, List.drop_left, List.length_append,
        List.length_singleton]
      omega
  | _ => simpa [Traffic.adopt, exchange] using hpending

theorem Settled.step (h : traffic.Settled libraries)
    (hstep : traffic.step? libraries move = some next) : next.Settled libraries := by
  cases move with
  | bridge move =>
      obtain ⟨exchange, hexchange, rfl⟩ := Option.map_eq_some_iff.1 hstep
      exact h.adopt hexchange
  | handleMessage =>
      cases hunhandled : traffic.unhandled with
      | nil => simp [step?, hunhandled] at hstep
      | cons message rest =>
          simp only [step?, hunhandled, Option.some.injEq] at hstep
          subst hstep
          have hpending := h.pending
          have hcounted := h.length_unhandled_le
          refine ⟨?_, ?_⟩
          · simpa [exchange, bridge_receive] using h.conserved
          · rw [hunhandled, List.length_cons] at hpending hcounted
            simp only [pendingLoads_receive]
            omega
  | handleRequest request =>
      cases request <;> simp only [step?, Option.some.injEq, reduceCtorEq] at hstep <;>
        subst hstep <;> exact ⟨h.conserved, h.pending⟩

theorem Settled.run (h : traffic.Settled libraries)
    (hrun : traffic.run? libraries moves = some last) : last.Settled libraries :=
  History.invariant_of_foldlM (P := fun _ traffic => traffic.Settled libraries)
    (fun _ _ _ _ hbefore hstep => hbefore.step hstep) [] h hrun

/-- Whatever the window and the worker do, and in whatever order: the messages received, those that
wait, the answer in the worker's hand and the answers to come to the queued commands are one answer
for each accepted load, in the order of the loads and each with the path of its load. The count of
pending loads is that of the loads without a received message, up to the messages that are received
and not yet handled, and it never has to be cut off at zero. -/
theorem answers_conserved (preferences : Preferences)
    (hrun : (fresh preferences).run? libraries moves = some last) :
    let answers := last.received ++ last.app.bridge.messages ++ last.app.bridge.inHand.toList ++
      last.exchange.awaited libraries
    (answers = last.accepted.mapIdx fun index path => answer (libraries index) path) ∧
      answers.map Message.source = last.accepted ∧
      last.app.pendingLoads + last.received.length =
        last.accepted.length + last.unhandled.length ∧
      (last.unhandled = [] →
        last.app.pendingLoads = last.accepted.length - last.received.length) ∧
      ∀ message rest, last.unhandled = message :: rest →
        (last.app.receive message).pendingLoads + 1 = last.app.pendingLoads := by
  intro answers
  have hsettled : last.Settled libraries := (settled_fresh preferences).run hrun
  have hanswers : answers = last.accepted.mapIdx fun index path => answer (libraries index) path :=
    hsettled.conserved.answers_append_awaited
  have hpending := hsettled.pending
  refine ⟨hanswers, ?_, hpending, ?_, ?_⟩
  · rw [hanswers]
    apply List.ext_getElem <;> simp
  · intro hunhandled
    rw [hunhandled, List.length_nil] at hpending
    omega
  · intro message rest hunhandled
    have hcounted := hsettled.length_unhandled_le
    rw [hunhandled, List.length_cons] at hcounted
    rw [pendingLoads_receive]
    omega

/-- The second answer arrives while the drain receives the first one, and the library has changed in
between. -/
theorem answers_conserved_interleaved :
    let libraries : Nat → Library := fun taken =>
      if taken = 0 then fun _ => .ok "[]" else fun path => .error (.document path)
    let moves : List Move :=
      [.bridge (.startLoad "a.json"), .bridge .queueLoad, .bridge (.startLoad "b.json"),
        .bridge .take, .bridge .deliver, .bridge .queueLoad, .bridge .startDrain, .bridge .take,
        .bridge .receive, .bridge .deliver, .bridge .receive, .bridge .finishDrain, .handleMessage,
        .bridge (.startLoad "a.json"), .handleRequest .dismissError, .bridge .queueLoad]
    ∃ last, (fresh .standard).run? libraries moves = some last ∧
      last.accepted = ["a.json", "b.json", "a.json"] ∧ last.received.length = 2 ∧
      last.app.pendingLoads = 2 ∧
      (last.received ++ last.app.bridge.messages ++ last.app.bridge.inHand.toList ++
        last.exchange.awaited libraries).map Message.source = last.accepted := by
  intro libraries moves
  have hend : ((fresh .standard).run? libraries moves).map (fun last =>
      (last.accepted, last.received.length, last.app.pendingLoads)) =
        some (["a.json", "b.json", "a.json"], 2, 2) := by decide +kernel
  obtain ⟨last, hrun, hlast⟩ := Option.map_eq_some_iff.1 hend
  simp only [Prod.mk.injEq] at hlast
  obtain ⟨haccepted, hreceived, hpending⟩ := hlast
  have hconserved := answers_conserved .standard hrun
  exact ⟨last, hrun, haccepted, hreceived, hpending, hconserved.2.1⟩

/-! ## A frame that nothing disturbs -/

theorem run?_cons_of_step? (hstep : traffic.step? libraries move = some next) :
    traffic.run? libraries (move :: moves) = next.run? libraries moves := by
  rw [run?, List.foldlM_cons, hstep]
  rfl

theorem run?_append_of_run? {first second : List Move}
    (hfirst : traffic.run? libraries first = some next) :
    traffic.run? libraries (first ++ second) = next.run? libraries second := by
  rw [run?] at hfirst
  rw [run?, List.foldlM_append, hfirst]
  rfl

theorem step?_startDrain (hwindow : traffic.window = .free) :
    traffic.step? libraries (.bridge .startDrain) = some { traffic with window := .draining } := by
  simp [step?, Exchange.step?, exchange, hwindow, adopt]

theorem step?_receive {message : Message} {rest : List Message}
    (hwindow : traffic.window = .draining)
    (hmessages : traffic.app.bridge.messages = message :: rest) :
    traffic.step? libraries (.bridge .receive) =
      some { traffic with
        app := { traffic.app with bridge := { traffic.app.bridge with messages := rest } }
        received := traffic.received ++ [message]
        unhandled := traffic.unhandled ++ [message] } := by
  simp [step?, Exchange.step?, exchange, hwindow, Loader.Bridge.receive?, hmessages, adopt]

theorem step?_finishDrain (hwindow : traffic.window = .draining)
    (hmessages : traffic.app.bridge.messages = []) :
    traffic.step? libraries (.bridge .finishDrain) = some { traffic with window := .free } := by
  simp [step?, Exchange.step?, exchange, hwindow, Loader.Bridge.receive?, hmessages, adopt]

theorem run?_receive {messages : List Message} (hwindow : traffic.window = .draining)
    (hmessages : traffic.app.bridge.messages = messages) :
    traffic.run? libraries (List.replicate messages.length (.bridge .receive)) =
      some { traffic with
        app := { traffic.app with bridge := { traffic.app.bridge with messages := [] } }
        received := traffic.received ++ messages
        unhandled := traffic.unhandled ++ messages } := by
  induction messages generalizing traffic with
  | nil =>
      rw [List.length_nil, List.replicate_zero, List.append_nil, List.append_nil, ← hmessages]
      rfl
  | cons message rest ih =>
      rw [List.length_cons, List.replicate_succ,
        run?_cons_of_step? (step?_receive hwindow hmessages)]
      refine (ih ?_ rfl).trans ?_
      · exact hwindow
      · simp only [List.append_assoc, List.singleton_append]

theorem run?_handleMessage (traffic : Traffic) :
    traffic.run? libraries (List.replicate traffic.unhandled.length .handleMessage) =
      some { traffic with
        app := traffic.unhandled.foldl receive traffic.app, unhandled := [] } := by
  obtain ⟨app, window, accepted, received, unhandled⟩ := traffic
  induction unhandled generalizing app with
  | nil => rfl
  | cons message rest ih => exact ih (app.receive message)

def frame (count : Nat) : List Move :=
  .bridge .startDrain :: (List.replicate count (.bridge .receive) ++
    .bridge .finishDrain :: List.replicate count .handleMessage)

/-- A frame of the application is a run of moves in which the worker has no part. -/
theorem run?_frame (hfree : traffic.window = .free) (hhandled : traffic.unhandled = []) :
    traffic.run? libraries (frame traffic.app.bridge.messages.length) =
      some { traffic with
        app := traffic.app.receiveAll
        received := traffic.received ++ traffic.app.bridge.messages } := by
  obtain ⟨app, window, accepted, received, unhandled⟩ := traffic
  obtain rfl : window = .free := hfree
  obtain rfl : unhandled = [] := hhandled
  rw [frame, run?_cons_of_step? (step?_startDrain rfl), run?_append_of_run? (run?_receive rfl rfl),
    run?_cons_of_step? (step?_finishDrain rfl rfl)]
  exact run?_handleMessage _

end Traffic

end StageAtlas.Application
