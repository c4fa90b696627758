import StageAtlas.Explorer.State
import StageAtlas.Path
import StageAtlas.Preferences.Basic

/-!
# Requests

What the views ask for. A view changes nothing itself.
-/

namespace StageAtlas

inductive Request where
  | explore (action : ExplorerAction)
  | chooseFile
  | openFile (path : Path)
  | closeProgram
  | setDarkMode (on : Bool)
  | setOrientation (orientation : Orientation)
  | resetCanvas
  | dismissError
  deriving DecidableEq, Repr

end StageAtlas
