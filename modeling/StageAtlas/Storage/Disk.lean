import StageAtlas.Failure
import StageAtlas.Path

/-!
# A disk

A disk holds files and directories. A path leads from the working directory, or from the root, one
piece at a time; every place that it passes through has to be a directory.
-/

namespace StageAtlas

/-- Why something could not be done on a disk. -/
inductive DiskFault where
  | notFound
  | notADirectory
  | isADirectory
  | exists
  | nameTooLong
  | zeroInName
  | notText
  | noWholeTree
  deriving DecidableEq, Repr

namespace DiskFault

def wording : DiskFault → String
  | notFound => "No such file or directory (os error 2)"
  | notADirectory => "Not a directory (os error 20)"
  | isADirectory => "Is a directory (os error 21)"
  | .exists => "File exists (os error 17)"
  | nameTooLong => "File name too long (os error 36)"
  | zeroInName => "file name contained an unexpected NUL byte"
  | notText => "stream did not contain valid UTF-8"
  | noWholeTree => "failed to create whole tree"

/-- The failure that a fault is for those who need what is on the disk. -/
def failure (fault : DiskFault) : Failure := .io (.plain fault.wording)

end DiskFault

/-- Where paths begin: at the root, or a number of levels above the working directory. -/
inductive Anchor where
  | root
  | above (levels : Nat)
  deriving DecidableEq, Repr

/-- A place on a disk: the names that lead to it from where its path begins. -/
structure Place where
  anchor : Anchor
  names : List String
  deriving DecidableEq, Repr

namespace Place

def working : Place := ⟨.above 0, []⟩

def child (place : Place) (name : String) : Place := ⟨place.anchor, place.names ++ [name]⟩

def holder (place : Place) : Place :=
  match place.names, place.anchor with
  | [], .root => place
  | [], .above levels => ⟨.above (levels + 1), []⟩
  | names, anchor => ⟨anchor, names.dropLast⟩

end Place

inductive DiskEntry where
  | file (bytes : ByteArray)
  | directory

/-- The entries of a disk; where a place has several the first one counts. -/
structure Disk where
  entries : List (Place × DiskEntry)

namespace Disk

def empty : Disk := ⟨[]⟩

instance : Inhabited Disk := ⟨empty⟩

/-- What is at a place. Where paths begin there is always a directory. -/
def get? (disk : Disk) (place : Place) : Option DiskEntry :=
  if place.names = [] then some .directory else disk.entries.lookup place

def put (disk : Disk) (place : Place) (entry : DiskEntry) : Disk :=
  ⟨(place, entry) :: disk.entries⟩

theorem get?_put_self (disk : Disk) {place : Place} (h : place.names ≠ []) (entry : DiskEntry) :
    (disk.put place entry).get? place = some entry := by
  simp [get?, put, h]

theorem get?_put_of_ne (disk : Disk) {place other : Place} (h : other ≠ place)
    (entry : DiskEntry) : (disk.put place entry).get? other = disk.get? other := by
  have hne : (other == place) = false := by simpa using h
  simp [get?, put, List.lookup_cons, hne]

/-- The longest name that a place can have, in bytes. -/
def longestName : Nat := 255

def longestPath : Nat := 4095

/-- The place that a piece leads to from another place, which has to be a directory. -/
def step (disk : Disk) (place : Place) (piece : List Char) : Except DiskFault Place :=
  match disk.get? place with
  | none => .error .notFound
  | some (.file _) => .error .notADirectory
  | some .directory =>
      if piece = Path.here then .ok place
      else if piece = Path.above then .ok place.holder
      else if longestName < Text.byteLength piece then .error .nameTooLong
      else .ok (place.child (String.ofList piece))

def walk (disk : Disk) (place : Place) (pieces : List (List Char)) : Except DiskFault Place :=
  pieces.foldlM disk.step place

/-- Where a path begins, if it can be followed at all. -/
def begin (path : Path) : Except DiskFault Place :=
  if path.toList.contains '\x00' then .error .zeroInName
  else if path = "" then .error .notFound
  else if longestPath < Text.byteLength path.toList then .error .nameTooLong
  else .ok (if path.isAbsolute then ⟨.root, []⟩ else .working)

/-- The place of a path, at which there need not be anything. A slash at the end asks for a
directory. -/
def locate (disk : Disk) (path : Path) : Except DiskFault Place := do
  let start ← begin path
  disk.walk start (path.pieces ++ if path.endsInSlash then [Path.here] else [])

def find (disk : Disk) (path : Path) : Except DiskFault DiskEntry := do
  let place ← disk.locate path
  match disk.get? place with
  | some entry => .ok entry
  | none => .error .notFound

def has (disk : Disk) (path : Path) : Bool :=
  match disk.find path with
  | .ok _ => true
  | .error _ => false

def hasDirectory (disk : Disk) (path : Path) : Bool :=
  match disk.find path with
  | .ok .directory => true
  | _ => false

def read (disk : Disk) (path : Path) : Except DiskFault String := do
  match ← disk.find path with
  | .directory => .error .isADirectory
  | .file bytes =>
      match String.fromUTF8? bytes with
      | some text => .ok text
      | none => .error .notText

/-- The place for something new at the end of a path, if the path ends in a name: the directory
before it has to be there. -/
def locateNew? (disk : Disk) (path : Path) : Except DiskFault (Option Place) := do
  let start ← begin path
  match path.pieces.getLast? with
  | none => .ok none
  | some name =>
      let holder ← disk.walk start (path.pieces.dropLast ++ [Path.here])
      if name = Path.here ∨ name = Path.above then .ok none
      else .ok (some (← disk.step holder name))

/-- The disk with a file written, the one before it replaced. -/
def writeBytes (disk : Disk) (path : Path) (bytes : ByteArray) : Except DiskFault Disk := do
  match ← disk.locateNew? path with
  | none => .error .isADirectory
  | some place =>
      if path.endsInSlash then .error .isADirectory
      else
        match disk.get? place with
        | some .directory => .error .isADirectory
        | _ => .ok (disk.put place (.file bytes))

def write (disk : Disk) (path : Path) (text : String) : Except DiskFault Disk :=
  disk.writeBytes path text.toUTF8

def createDirectory (disk : Disk) (path : Path) : Except DiskFault Disk := do
  match ← disk.locateNew? path with
  | none => .error .exists
  | some place =>
      match disk.get? place with
      | some _ => .error .exists
      | none => .ok (disk.put place .directory)

def settle (disk : Disk) (path : Path) (made : Except DiskFault Disk) : Except DiskFault Disk :=
  match made with
  | .ok next => .ok next
  | .error fault => if disk.hasDirectory path then .ok disk else .error fault

/-- The disk with a directory and all directories that hold it. -/
def createDirectories (disk : Disk) (path : Path) : Except DiskFault Disk :=
  if path = "" then .ok disk
  else
    match disk.createDirectory path with
    | .error .notFound =>
        match _h : path.parent? with
        | none => .error .noWholeTree
        | some dir =>
            match disk.createDirectories dir with
            | .error fault => .error fault
            | .ok next => next.settle path (next.createDirectory path)
    | made => disk.settle path made
termination_by path.toList.length
decreasing_by exact Path.length_parent?_lt ‹_›

/-- The disk with a file, or with a directory if there are no bytes, and with all that holds it.
What cannot be made is left out. -/
def install (disk : Disk) (path : Path) (bytes : Option ByteArray) : Disk :=
  let withDirectory (dir : Path) : Disk := (disk.createDirectories dir).toOption.getD disk
  match bytes with
  | none => withDirectory path
  | some bytes =>
      let disk := withDirectory (path.parent?.getD "")
      (disk.writeBytes path bytes).toOption.getD disk

def ofFiles (files : List (Path × Option ByteArray)) : Disk :=
  files.foldl (fun disk file => disk.install file.1 file.2) empty

end Disk

end StageAtlas
