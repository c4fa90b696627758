import StageAtlas.Loader.Worker
import StageAtlas.Storage.Disk
import StageAtlas.Text.Quoted

/-!
# Documents on a disk
-/

namespace StageAtlas.Disk

/-- The files of a disk as a library of documents. -/
def library (disk : Disk) : Loader.Library := fun path =>
  Outcome.withContext
    (match disk.read path with
      | .ok text => .ok text
      | .error fault => .error fault.failure)
    fun _ => "Failed to read " ++ Text.quote path

end StageAtlas.Disk
