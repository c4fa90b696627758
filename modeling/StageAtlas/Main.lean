import StageAtlas.Application.Input
import StageAtlas.Storage.Library

/-!
# The command line

Opens the document that the first argument names and writes what the window shows, a line for each
label.
-/

namespace StageAtlas

/-- A disk with what is at a path; an empty one if it cannot be read. -/
def snapshot (path : String) : IO Disk := do
  try
    return Disk.ofFiles [(path, some (← IO.FS.readBinFile path))]
  catch _ =>
    return Disk.empty

end StageAtlas

open StageAtlas in
def main (arguments : List String) : IO Unit := do
  let disk ← match arguments.head? with
    | some path => snapshot path
    | none => pure Disk.empty
  let app := (Application.start .standard arguments.head?).work disk.library
  for label in app.view "just now" do
    IO.println label.text
