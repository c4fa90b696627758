import StageAtlas.View.Label

/-!
# The menu bar
-/

namespace StageAtlas.MenuBar

def title : Menu → String
  | .file => "File"
  | .view => "View"

def bar (program : Option String) : List Label :=
  [⟨title .file, .menu .file, []⟩, ⟨title .view, .menu .view, []⟩] ++
    program.toList.map .plain

/-- The items of the file menu. Without a program there is nothing to close. -/
def fileItems (loaded : Bool) : List Label :=
  [.asking "Open..." .chooseFile,
    if loaded then .asking "Close Program" .closeProgram else .plain "Close Program"]

def viewItems (darkMode : Bool) : List Label :=
  (ViewMode.all.map fun mode => .exploring mode.title (.setMode mode)) ++
    (Orientation.all.map fun orientation =>
      .asking orientation.title (.setOrientation orientation)) ++
    [.asking "Reset Zoom" .resetCanvas, .asking "Dark Mode" (.setDarkMode !darkMode)]

def items (loaded darkMode : Bool) : Menu → List Label
  | .file => fileItems loaded
  | .view => viewItems darkMode

end StageAtlas.MenuBar
