import StageAtlas.View.Geometry
import StageAtlas.View.Request

/-!
# Labels

A view is a list of labels in the order in which they are painted. A label says what a click on it
does and what is told while the pointer rests on it.
-/

namespace StageAtlas

/-- The parts of the detail panel that can be folded away. -/
inductive Fold where
  | headerTypes
  | header (name : String)
  | externs (title : String)
  deriving DecidableEq, Repr

inductive Menu where
  | file
  | view
  deriving DecidableEq, Repr

inductive Reaction where
  | none
  | ask (request : Request)
  | fold (part : Fold)
  | menu (menu : Menu)
  | canvas (spot : Point)
  deriving DecidableEq

structure Label where
  text : String
  reaction : Reaction
  hint : List String
  deriving DecidableEq

namespace Label

def plain (text : String) : Label := ⟨text, .none, []⟩

def telling (text hint : String) : Label := ⟨text, .none, [hint]⟩

def asking (text : String) (request : Request) : Label := ⟨text, .ask request, []⟩

/-- A text that asks for something of the explorer. -/
def exploring (text : String) (action : ExplorerAction) : Label := asking text (.explore action)

def withHint (label : Label) (hint : String) : Label := { label with hint := [hint] }

/-- The labels with a given text, from which one is chosen by its place. -/
def pick? (labels : List Label) (text : String) (place : Nat) : Option Label :=
  (labels.filter (·.text = text))[place]?

def requests (labels : List Label) : List Request :=
  labels.filterMap fun label =>
    match label.reaction with
    | .ask request => some request
    | _ => Option.none

end Label

/-- Which parts are folded away: those that were turned around, and how each one starts. -/
structure Folds where
  turned : List Fold
  deriving DecidableEq

namespace Folds

def fresh : Folds := ⟨[]⟩

instance : Inhabited Folds := ⟨fresh⟩

def startsOpen : Fold → Bool
  | .headerTypes => true
  | .header _ => true
  | .externs _ => false

def isOpen (folds : Folds) (part : Fold) : Bool := startsOpen part != folds.turned.contains part

def turn (folds : Folds) (part : Fold) : Folds :=
  if folds.turned.contains part then ⟨folds.turned.filter (· ≠ part)⟩ else ⟨part :: folds.turned⟩

end Folds

end StageAtlas
