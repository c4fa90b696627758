import StageAtlas.Session
import StageAtlas.View.DetailPanel

/-!
# The status bar
-/

namespace StageAtlas.StatusBar

structure Content where
  status : LoadStatus
  title : Option String
  stageCount : Nat
  selected : Option String
  loading : Bool
  lastError : Option String
  deriving DecidableEq, Repr

def statusText : LoadStatus → String
  | .loaded => "Loaded"
  | .loadedEmpty => "Empty"
  | .notLoaded => "No program"

def programText (content : Content) : String :=
  match content.title with
  | some title => statusText content.status ++ ": " ++ title
  | none => statusText content.status

/-- The status bar. An error can be dismissed. -/
def view (content : Content) : List Label :=
  [.plain "●", .plain (programText content)] ++
    (if content.status = .notLoaded then []
      else [.plain ("Stages: " ++ toString content.stageCount)]) ++
    (content.selected.toList.map fun name => .plain ("Selected: " ++ name)) ++
    (if content.loading then [.plain "Loading..."] else []) ++
    match content.lastError with
    | some error =>
        [(Label.asking DetailPanel.cross .dismissError).withHint "Dismiss", .plain error]
    | none => []

end StageAtlas.StatusBar
