import Mathlib.Data.List.Induction
import StageAtlas.Failure

/-! # Failures in context

The last context stands outermost: its text comes first in the wording, and of all that stands
behind the failure the one without it is the nearest. Behind the base stands only the error from
below that it may wrap, with its causes.
-/

namespace StageAtlas

namespace Underlying

def layersOf (detail : String) : List String → List Underlying
  | [] => [⟨detail, []⟩]
  | cause :: causes => ⟨detail, cause :: causes⟩ :: layersOf cause causes

/-- An error and all that caused it, the nearest cause first, each with the causes behind it. -/
def layers (error : Underlying) : List Underlying := layersOf error.detail error.causes

theorem map_detail_layersOf (detail : String) (causes : List String) :
    (layersOf detail causes).map (·.detail) = detail :: causes := by
  induction causes generalizing detail with
  | nil => rfl
  | cons cause causes ih => rw [layersOf, List.map_cons, ih]

theorem map_detail_layers (error : Underlying) : error.layers.map (·.detail) = error.wordings :=
  map_detail_layersOf error.detail error.causes

end Underlying

namespace Failure

/-- What stands behind something is followed to its end: the nearest first, then what stands behind
that one. -/
inductive Behind : Option Source → List Source → Prop
  | nothing : Behind none []
  | next {source : Source} {rest : List Source} (h : Behind source.source? rest) :
      Behind (some source) (source :: rest)

theorem Behind.unique {start : Option Source} {chain other : List Source} (h : Behind start chain)
    (hother : Behind start other) : chain = other := by
  induction h generalizing other with
  | nothing =>
      cases hother
      rfl
  | next _ ih =>
      cases hother with
      | next hrest => rw [ih hrest]

/-- A failure in context stands before the same failure without it. One that wraps an error from
below stands before this error and its causes, and any other failure before nothing. -/
def chain : Failure → List Source
  | inContext _ inner => .failure inner :: inner.chain
  | io error => error.layers.map .underlying
  | json error => error.layers.map .underlying
  | tomlDecode error => error.layers.map .underlying
  | tomlEncode error => error.layers.map .underlying
  | config _ => []
  | document _ => []
  | channel _ => []

theorem behind_layersOf (detail : String) (causes : List String) :
    Behind (some (.underlying ⟨detail, causes⟩))
      ((Underlying.layersOf detail causes).map .underlying) := by
  induction causes generalizing detail with
  | nil => exact .next .nothing
  | cons cause causes ih => exact .next (ih cause)

theorem behind_layers (error : Underlying) :
    Behind (some (.underlying error)) (error.layers.map .underlying) :=
  behind_layersOf error.detail error.causes

theorem behind_chain (failure : Failure) : Behind failure.source? failure.chain := by
  induction failure with
  | config _ | document _ | channel _ => exact .nothing
  | io error | json error | tomlDecode error | tomlEncode error => exact behind_layers error
  | inContext _ inner ih => exact .next ih

theorem behind_iff {failure : Failure} {chain : List Source} :
    Behind failure.source? chain ↔ chain = failure.chain := by
  constructor
  · exact fun h => h.unique failure.behind_chain
  · rintro rfl
    exact failure.behind_chain

theorem map_message_layers (error : Underlying) :
    (error.layers.map Source.underlying).map Source.message = error.wordings := by
  rw [List.map_map, ← error.map_detail_layers]
  rfl

/-- The wordings of what stands behind a failure; only failures have a word of their own in front
of them. -/
theorem map_message_chain (failure : Failure) :
    failure.chain.map Source.message = failure.sources := by
  induction failure with
  | config _ | document _ | channel _ => rfl
  | io error | json error | tomlDecode error | tomlEncode error => exact map_message_layers error
  | inContext _ inner ih => exact congrArg (inner.message :: ·) ih

/-! ## Many contexts -/

/-- A failure in contexts, the first one innermost. -/
def inContexts (base : Failure) (texts : List String) : Failure := texts.foldl withContext base

theorem inContexts_concat (base : Failure) (texts : List String) (text : String) :
    base.inContexts (texts ++ [text]) = (base.inContexts texts).withContext text := by
  simp [inContexts]

theorem message_inContexts (base : Failure) (texts : List String) :
    (base.inContexts texts).message =
      String.join (texts.reverse.map fun text => text ++ ": ") ++ base.message := by
  induction texts using List.reverseRecOn with
  | nil => simp [inContexts]
  | append_singleton texts text ih =>
      rw [inContexts_concat, message_withContext, ih]
      simp [String.append_assoc]

/-- The failure with one more of the outer contexts off each time, down to the base. -/
def peeled (base : Failure) (texts : List String) : List Failure :=
  (List.range texts.length).reverse.map fun count => base.inContexts (texts.take count)

theorem peeled_concat (base : Failure) (texts : List String) (text : String) :
    base.peeled (texts ++ [text]) = base.inContexts texts :: base.peeled texts := by
  have hcounts : (List.range (texts ++ [text]).length).reverse =
      texts.length :: (List.range texts.length).reverse := by
    simp [List.range_succ]
  have hwhole : (texts ++ [text]).take texts.length = texts := List.take_left
  have hpart : ∀ count ∈ (List.range texts.length).reverse,
      base.inContexts ((texts ++ [text]).take count) = base.inContexts (texts.take count) := by
    intro count hcount
    have hlt : count < texts.length := List.mem_range.1 (List.mem_reverse.1 hcount)
    rw [List.take_append_of_le_length (Nat.le_of_lt hlt)]
  simp only [peeled, hcounts, List.map_cons, hwhole, List.map_congr_left hpart]

/-- All contexts come off before what stands behind the base. -/
theorem chain_inContexts (base : Failure) (texts : List String) :
    (base.inContexts texts).chain = (base.peeled texts).map .failure ++ base.chain := by
  -- From the end: the last context is the outermost, so it comes off first.
  induction texts using List.reverseRecOn with
  | nil => rfl
  | append_singleton texts text ih =>
      rw [inContexts_concat, peeled_concat, withContext, chain, ih]
      rfl

theorem sources_inContexts (base : Failure) (texts : List String) :
    (base.inContexts texts).sources = (base.peeled texts).map message ++ base.sources := by
  rw [← map_message_chain, chain_inContexts, List.map_append, List.map_map, map_message_chain]
  rfl

example : ((io ⟨"denied", ["locked"]⟩).inContexts ["reading", "opening"]).sources =
    ["reading: IO error: denied", "IO error: denied", "denied", "locked"] := by decide

end Failure

/-- A context, by the way it is put in front of the failure of an outcome: by the failure itself, or
by the outcome, which has the text or works it out only if there is a failure. -/
inductive Context where
  | own (text : String)
  | given (text : String)
  | deferred (text : Unit → String)

namespace Context

variable {α : Type}

def text : Context → String
  | own text => text
  | given text => text
  | deferred text => text ()

def attach (outcome : Outcome α) : Context → Outcome α
  | own text => outcome.mapError fun failure => failure.withContext text
  | given text => outcome.context text
  | deferred text => outcome.withContext text

def attachAll (contexts : List Context) (outcome : Outcome α) : Outcome α :=
  contexts.foldl attach outcome

theorem attachAll_ok (contexts : List Context) (value : α) :
    attachAll contexts (.ok value) = .ok value := by
  induction contexts with
  | nil => rfl
  | cons context rest ih => cases context <;> exact ih

theorem attach_error (failure : Failure) (context : Context) :
    attach (.error failure : Outcome α) context = .error (failure.withContext context.text) := by
  cases context <;> rfl

theorem attachAll_error (contexts : List Context) (base : Failure) :
    attachAll contexts (.error base : Outcome α) =
      .error (base.inContexts (contexts.map Context.text)) := by
  induction contexts generalizing base with
  | nil => rfl
  | cons context rest ih =>
      rw [attachAll, List.foldl_cons, attach_error]
      exact ih (base.withContext context.text)

/-- Contexts leave a value alone. A failure has them in front of its wording, from the outermost to
the innermost, and they come off in this order on the way to the base, behind which stands what
stood there before. -/
theorem contexts_in_layers (contexts : List Context) :
    (∀ value : α, attachAll contexts (.ok value) = .ok value) ∧
      ∀ base : Failure, ∃ failure : Failure,
        attachAll contexts (.error base : Outcome α) = .error failure ∧
        failure.message =
          String.join (contexts.reverse.map fun context => context.text ++ ": ") ++
            base.message ∧
        (∀ chain, Failure.Behind failure.source? chain ↔
          chain = (base.peeled (contexts.map Context.text)).map .failure ++ base.chain) ∧
        failure.sources =
          (base.peeled (contexts.map Context.text)).map Failure.message ++ base.sources := by
  refine ⟨attachAll_ok contexts, fun base => ⟨_, attachAll_error contexts base, ?_, ?_,
    base.sources_inContexts _⟩⟩
  · rw [Failure.message_inContexts, ← List.map_reverse, List.map_map]
    rfl
  · intro chain
    rw [Failure.behind_iff, Failure.chain_inContexts]

end Context

end StageAtlas
