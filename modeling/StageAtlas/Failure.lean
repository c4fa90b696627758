import StageAtlas.Json.Reader

/-!
# Failures

Exploring never fails; reading documents and preferences does. A failure says what went wrong, and
every context that it passes through is put in front of it.
-/

namespace StageAtlas

/-- An error from below: its wording, and the wordings of what caused it, the nearest first. -/
structure Underlying where
  detail : String
  causes : List String
  deriving DecidableEq, Repr

namespace Underlying

def plain (detail : String) : Underlying := ⟨detail, []⟩

def wordings (error : Underlying) : List String := error.detail :: error.causes

def source? : Underlying → Option Underlying
  | ⟨_, []⟩ => none
  | ⟨_, cause :: causes⟩ => some ⟨cause, causes⟩

/-- A fault in a text is an error without causes. -/
instance : Coe Json.TextFault Underlying := ⟨fun fault => plain fault.message⟩

end Underlying

inductive Failure where
  | config (detail : String)
  | document (detail : String)
  | channel (detail : String)
  | io (error : Underlying)
  | json (error : Underlying)
  | tomlDecode (error : Underlying)
  | tomlEncode (error : Underlying)
  | inContext (context : String) (inner : Failure)
  deriving DecidableEq, Repr

/-- What may stand behind a failure: another failure, or an error from below. -/
inductive Failure.Source where
  | failure (failure : Failure)
  | underlying (error : Underlying)
  deriving DecidableEq, Repr

namespace Failure

def message : Failure → String
  | config detail => "Configuration error: " ++ detail
  | document detail => "Document error: " ++ detail
  | channel detail => "Channel error: " ++ detail
  | io error => "IO error: " ++ error.detail
  | json error => "JSON error: " ++ error.detail
  | tomlDecode error => "TOML decode error: " ++ error.detail
  | tomlEncode error => "TOML encode error: " ++ error.detail
  | inContext context inner => context ++ ": " ++ inner.message

def source? : Failure → Option Source
  | config _ => none
  | document _ => none
  | channel _ => none
  | io error => some (.underlying error)
  | json error => some (.underlying error)
  | tomlDecode error => some (.underlying error)
  | tomlEncode error => some (.underlying error)
  | inContext _ inner => some (.failure inner)

/-- The wording of what stands behind a failure; an error from below has no word in front. -/
def Source.message : Source → String
  | failure f => f.message
  | underlying error => error.detail

def Source.source? : Source → Option Source
  | failure f => f.source?
  | underlying error => error.source?.map underlying

def sources : Failure → List String
  | config _ => []
  | document _ => []
  | channel _ => []
  | io error => error.wordings
  | json error => error.wordings
  | tomlDecode error => error.wordings
  | tomlEncode error => error.wordings
  | inContext _ inner => inner.message :: inner.sources

def innermost : Failure → Failure
  | inContext _ inner => inner.innermost
  | failure => failure

def withContext (failure : Failure) (text : String) : Failure := .inContext text failure

@[simp] theorem message_withContext (failure : Failure) (text : String) :
    (failure.withContext text).message = text ++ ": " ++ failure.message := rfl

end Failure

abbrev Outcome (α : Type) := Except Failure α

namespace Outcome

variable {α : Type}

/-- The outcome with a context in front of its failure. -/
def context (outcome : Outcome α) (text : String) : Outcome α :=
  match outcome with
  | .ok value => .ok value
  | .error failure => .error (failure.withContext text)

/-- The outcome with a context that is worked out only if there is a failure. -/
def withContext (outcome : Outcome α) (text : Unit → String) : Outcome α :=
  match outcome with
  | .ok value => .ok value
  | .error failure => .error (failure.withContext (text ()))

@[simp] theorem context_ok (value : α) (text : String) :
    context (.ok value) text = .ok value := rfl

@[simp] theorem context_error (failure : Failure) (text : String) :
    context (.error failure : Outcome α) text = .error (failure.withContext text) := rfl

@[simp] theorem withContext_ok (value : α) (text : Unit → String) :
    withContext (.ok value) text = .ok value := rfl

@[simp] theorem withContext_error (failure : Failure) (text : Unit → String) :
    withContext (.error failure : Outcome α) text = .error (failure.withContext (text ())) := rfl

end Outcome

end StageAtlas
