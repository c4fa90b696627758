import StageAtlas.Preferences.Document
import StageAtlas.Storage.Disk
import StageAtlas.Text.Quoted

/-!
# Preferences on a disk

A file that is not there stands for the standard preferences.
-/

namespace StageAtlas.Preferences

/-- The directory of all that is kept, in the user's directory for such things. -/
def directory : Path := "dev.p4lens.p4lens"

def file : Path := directory ++ "/config.toml"

def logDirectory : Path := directory ++ "/logs"

/-- The outcome of something done on a disk, with what was tried and where. -/
def attempt {α : Type} (result : Except DiskFault α) (what : String) (path : Path) : Outcome α :=
  Outcome.withContext
    (match result with
      | .ok value => .ok value
      | .error fault => .error fault.failure)
    fun _ => what ++ " " ++ Text.quote path

def load (disk : Disk) (path : Path) : Outcome Preferences :=
  if disk.has path then do
    let content ← attempt (disk.read path) "Failed to read config" path
    Outcome.withContext
      (match parse? content with
        | some preferences => .ok preferences
        | none => .error (.tomlDecode (.plain "not a document of preferences")))
      fun _ => "Failed to parse config " ++ Text.quote path
  else .ok standard

def orStandard : Outcome Preferences → Preferences × Option Failure
  | .ok preferences => (preferences, none)
  | .error failure => (standard, some failure)

def loadOrStandard (disk : Disk) (path : Path) : Preferences × Option Failure :=
  orStandard (load disk path)

/-- The disk with the preferences in a file, its directory made if needed. -/
def save (preferences : Preferences) (disk : Disk) (path : Path) : Outcome Disk := do
  let disk ← match path.parent? with
    | some dir =>
        attempt (disk.createDirectories dir) "Failed to create config directory" dir
    | none => .ok disk
  attempt (disk.write path preferences.text) "Failed to write config" path

end StageAtlas.Preferences
