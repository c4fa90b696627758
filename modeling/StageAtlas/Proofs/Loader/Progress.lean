import Mathlib.Data.List.Infix
import StageAtlas.Proofs.History
import StageAtlas.Proofs.Loader.Exchange

/-! # Window and worker never wait for each other

Both queues are bounded, and whoever finds one full waits. A completed drain leaves no message
behind, so what is under way fits the queues as long as the window starts few loads before the
next drain.
-/

namespace StageAtlas.Loader

open History

/-! ## The pace of the window -/

namespace Move

def finishesDrain? : Move → Option Unit
  | finishDrain => some ()
  | _ => none

def startsLoad : Move → Bool
  | startLoad _ => true
  | _ => false

end Move

/-- The loads started since the latest completed drain. A fresh bridge counts as drained. -/
def loadsSinceDrain (moves : List Move) : Nat :=
  (since Move.finishesDrain? moves).countP Move.startsLoad

/-- At no moment of the run were more loads started since the latest completed drain. -/
def Paced (limit : Nat) (moves : List Move) : Prop :=
  ∀ before, before <+: moves → loadsSinceDrain before ≤ limit

theorem loadsSinceDrain_concat (moves : List Move) (move : Move) :
    loadsSinceDrain (moves ++ [move]) =
      if move = .finishDrain then 0
      else loadsSinceDrain moves + if move.startsLoad then 1 else 0 := by
  rw [loadsSinceDrain, since_concat]
  cases move <;> simp [Move.finishesDrain?, Move.startsLoad, loadsSinceDrain]

def Window.pressing : Window → Nat
  | loading _ => 1
  | _ => 0

namespace Exchange

def WindowWaits (exchange : Exchange) : Prop :=
  (∃ path, exchange.window = .loading path) ∧ exchange.bridge.hasRoom = false

def WorkerWaits (exchange : Exchange) : Prop :=
  exchange.bridge.inHand.isSome ∧ capacity ≤ exchange.bridge.messages.length

/-- How many loads are under way, from their start until their message is received. -/
def underWay (exchange : Exchange) : Nat :=
  exchange.window.pressing + exchange.bridge.commands.length +
    exchange.bridge.inHand.toList.length + exchange.bridge.messages.length

variable {libraries : Nat → Library} {exchange next last : Exchange} {move : Move}
  {past moves : List Move}

theorem commands_step_le (hstep : Step libraries exchange move next)
    (h : exchange.bridge.commands.length ≤ capacity) :
    next.bridge.commands.length ≤ capacity := by
  cases hstep with
  | queueLoad path hwindow hroom =>
      rw [List.length_append, List.length_singleton]
      omega
  | takeLoad path rest hhand hcommands =>
      rw [hcommands, List.length_cons] at h
      exact Nat.le_of_succ_le h
  | takeShutdown rest hhand hcommands =>
      rw [hcommands, List.length_cons] at h
      exact Nat.le_of_succ_le h
  | _ => exact h

theorem underWay_step_le (hstep : Step libraries exchange move next) :
    next.underWay ≤ exchange.underWay + if move.startsLoad then 1 else 0 := by
  cases hstep with
  | startLoad path hfree =>
      simp only [underWay, Window.pressing, hfree, Move.startsLoad, if_true]
      omega
  | queueLoad path hwindow hroom =>
      simp only [underWay, Window.pressing, hwindow, List.length_append, List.length_singleton]
      omega
  | startDrain hfree =>
      simp only [underWay, Window.pressing, hfree]
      omega
  | receive message rest hwindow hmessages =>
      simp only [underWay, hmessages, List.length_cons]
      omega
  | finishDrain hwindow hmessages =>
      simp only [underWay, Window.pressing, hwindow]
      omega
  | takeLoad path rest hhand hcommands =>
      simp only [underWay, hhand, hcommands, Option.toList_none, Option.toList_some,
        List.length_nil, List.length_cons]
      omega
  | takeShutdown rest hhand hcommands =>
      simp only [underWay, hcommands, List.length_cons]
      omega
  | deliver message hhand hroom =>
      simp only [underWay, hhand, Option.toList_none, Option.toList_some, List.length_append,
        List.length_nil, List.length_cons]
      omega

theorem underWay_le_of_finishDrain (hstep : Step libraries exchange .finishDrain next) :
    next.underWay ≤ next.bridge.commands.length + 1 := by
  cases hstep with
  | finishDrain hwindow hmessages =>
      have hhand : exchange.bridge.inHand.toList.length ≤ 1 := by
        cases exchange.bridge.inHand <;> simp
      simp only [underWay, Window.pressing, hmessages, List.length_nil]
      omega

/-- What a drain leaves fits one queue and the worker's hand; all else was started since. -/
structure Moderate (past : List Move) (exchange : Exchange) : Prop where
  commands_le : exchange.bridge.commands.length ≤ capacity
  underWay_le : exchange.underWay ≤ capacity + 1 + loadsSinceDrain past

theorem moderate_fresh : fresh.Moderate [] := ⟨Nat.zero_le _, Nat.zero_le _⟩

theorem Moderate.step (h : exchange.Moderate past) (hstep : Step libraries exchange move next) :
    next.Moderate (past ++ [move]) := by
  have hcommands := commands_step_le hstep h.commands_le
  refine ⟨hcommands, ?_⟩
  rw [loadsSinceDrain_concat]
  by_cases hfinish : move = .finishDrain
  · subst hfinish
    have hleft := underWay_le_of_finishDrain hstep
    rw [if_pos rfl]
    omega
  · have hadded := underWay_step_le hstep
    have hbefore := h.underWay_le
    rw [if_neg hfinish]
    omega

theorem Moderate.run (h : exchange.Moderate past) (hconserved : exchange.Conserved libraries)
    (hrun : exchange.run? libraries moves = some last) : last.Moderate (past ++ moves) := by
  have hboth := invariant_of_foldlM
    (P := fun past exchange => exchange.Conserved libraries ∧ exchange.Moderate past)
    (fun past exchange move next hbefore hstep =>
      ⟨hbefore.1.step hstep, hbefore.2.step (.of_step? hbefore.1.running hstep)⟩)
    past ⟨hconserved, h⟩ hrun
  exact hboth.2

/-- A window that waits for room finds a full queue of commands, so the worker has something to do
unless it waits as well. -/
theorem worker_moves_of_windowWaits (hrunning : exchange.bridge.running = true)
    (hwindow : exchange.WindowWaits) (hworker : ¬ exchange.WorkerWaits) :
    (exchange.step? libraries .take).isSome ∨ (exchange.step? libraries .deliver).isSome := by
  cases hhand : exchange.bridge.inHand with
  | none =>
      -- With free hands it takes a command, and there is one, since the queue is full.
      left
      have hfull : capacity ≤ exchange.bridge.commands.length := by
        simpa [Bridge.hasRoom] using hwindow.2
      cases hcommands : exchange.bridge.commands with
      | nil => simp [hcommands, capacity] at hfull
      | cons command rest =>
          cases command <;> simp [step?, Bridge.take?, hrunning, hhand, hcommands]
  | some message =>
      right
      have hroom : exchange.bridge.messages.length < capacity := by
        simpa [WorkerWaits, hhand] using hworker
      simp [step?, Bridge.deliver?, hhand, hroom]

/-- If both wait, nothing can move any more. -/
theorem step?_eq_none_of_both_wait (hwindow : exchange.WindowWaits) (hworker : exchange.WorkerWaits)
    (move : Move) : exchange.step? libraries move = none := by
  obtain ⟨⟨path, hloading⟩, hfull⟩ := hwindow
  obtain ⟨hhand, hmessages⟩ := hworker
  obtain ⟨message, hmessage⟩ := Option.isSome_iff_exists.1 hhand
  cases move with
  | queueLoad => simp [step?, hloading, hfull]
  | take =>
      have htake : exchange.bridge.take? (libraries exchange.answers.length) = none := by
        simp [Bridge.take?, hmessage]
      simp [step?, htake]
  | deliver => simp [step?, Bridge.deliver?, hmessage, Nat.not_lt.2 hmessages]
  | _ => simp [step?, hloading]

/-- As long as the window starts no more loads between two completed drains than a queue holds, it
is never the case that the window waits in a load while the worker waits with an answer. Whenever
the window waits, the worker can move. -/
theorem not_both_wait (hrun : fresh.run? libraries moves = some last)
    (hpaced : Paced capacity moves) :
    ¬ (last.WindowWaits ∧ last.WorkerWaits) ∧
      (last.WindowWaits →
        (last.step? libraries .take).isSome ∨ (last.step? libraries .deliver).isSome) := by
  have hconserved := (conserved_fresh libraries).run hrun
  have hmoderate : last.Moderate moves := moderate_fresh.run (conserved_fresh libraries) hrun
  have hnot : ¬ (last.WindowWaits ∧ last.WorkerWaits) := by
    rintro ⟨⟨⟨path, hwindow⟩, hfull⟩, hhand, hmessages⟩
    have hunderWay := hmoderate.underWay_le
    have hpace := hpaced moves List.prefix_rfl
    have hcommands : capacity ≤ last.bridge.commands.length := by
      simpa [Bridge.hasRoom] using hfull
    obtain ⟨message, hmessage⟩ := Option.isSome_iff_exists.1 hhand
    -- The load that waits, two full queues and the answer are one more than can be under way.
    simp only [underWay, Window.pressing, hwindow, hmessage, Option.toList_some,
      List.length_singleton] at hunderWay
    omega
  exact ⟨hnot, fun hwindow =>
    worker_moves_of_windowWaits hconserved.running hwindow fun hworker => hnot ⟨hwindow, hworker⟩⟩

/-- The window fills the commands again and again, in spite of two drains that find nothing; then
the worker goes some rounds while the window loads on. -/
def rush (rounds : Nat) : List Move :=
  (List.replicate capacity [.startLoad "a", .queueLoad]).flatten ++
    [.startDrain, .finishDrain, .take, .startLoad "a", .queueLoad, .startDrain, .finishDrain] ++
    (List.replicate rounds [.deliver, .take, .startLoad "a", .queueLoad]).flatten ++
    [.startLoad "a"]

def noLibrary : Nat → Library := fun _ _ => .error (.document "no such document")

theorem paced_of_forall_mem_inits {limit : Nat}
    (h : ∀ before ∈ moves.inits, loadsSinceDrain before ≤ limit) : Paced limit moves :=
  fun before hbefore => h before ((List.mem_inits before moves).2 hbefore)

/-- At full pace the window comes to wait, with a place left for one message. -/
theorem not_both_wait_rush :
    Paced capacity (rush 15) ∧
      ∃ last, fresh.run? noLibrary (rush 15) = some last ∧ last.WindowWaits ∧
        last.bridge.messages.length = 15 ∧ ¬ (last.WindowWaits ∧ last.WorkerWaits) := by
  have hpaced : Paced capacity (rush 15) := paced_of_forall_mem_inits (by decide +kernel)
  have hend : (fresh.run? noLibrary (rush 15)).map (fun last =>
      (last.window, last.bridge.hasRoom, last.bridge.messages.length)) =
        some (.loading "a", false, 15) := by decide +kernel
  obtain ⟨last, hrun, hlast⟩ := Option.map_eq_some_iff.1 hend
  simp only [Prod.mk.injEq] at hlast
  exact ⟨hpaced, last, hrun, ⟨⟨"a", hlast.1⟩, hlast.2.1⟩, hlast.2.2, (not_both_wait hrun hpaced).1⟩

/-- With one load more between two drains both may wait, and then for ever. -/
theorem both_wait_rush :
    Paced (capacity + 1) (rush 16) ∧
      ∃ last, fresh.run? noLibrary (rush 16) = some last ∧
        ∀ move, last.step? noLibrary move = none := by
  have hend : (fresh.run? noLibrary (rush 16)).map (fun last =>
      (last.window, last.bridge.hasRoom, last.bridge.inHand.isSome,
        last.bridge.messages.length)) = some (.loading "a", false, true, 16) := by decide +kernel
  obtain ⟨last, hrun, hlast⟩ := Option.map_eq_some_iff.1 hend
  simp only [Prod.mk.injEq] at hlast
  obtain ⟨hwindow, hroom, hhand, hmessages⟩ := hlast
  exact ⟨paced_of_forall_mem_inits (by decide +kernel), last, hrun,
    step?_eq_none_of_both_wait ⟨⟨"a", hwindow⟩, hroom⟩ ⟨hhand, hmessages.ge⟩⟩

end Exchange

end StageAtlas.Loader
