import StageAtlas.Program.Registry
import StageAtlas.Text.Blank

/-!
# Program structures

A program structure is what an analysis tells of a packet-processing program: its stages in the
order of the document, and the tables, headers and externs that all stages share.
-/

namespace StageAtlas

/-- What a stage is; an unfamiliar one keeps the label it came with. -/
inductive StageKind where
  | parser
  | control
  | deparser
  | other (label : String)
  deriving DecidableEq, Repr

namespace StageKind

def unknown : StageKind := other "unknown"

/-- The kind that a label names, whatever its case and the blanks around it. A blank label names
none. -/
def ofLabel (label : String) : StageKind :=
  let name := (Text.trimBlank label.toList).map Char.toLower
  if name = "parser".toList then parser
  else if name = "control".toList then control
  else if name = "deparser".toList then deparser
  else if name = [] then unknown
  else other label

def label : StageKind → String
  | parser => "parser"
  | control => "control"
  | deparser => "deparser"
  | other label => label

/-- The place of a kind in the pipeline: packets are parsed, controlled and deparsed, and what else
there is comes last. -/
def rank : StageKind → Nat
  | parser => 0
  | control => 1
  | deparser => 2
  | other _ => 99

end StageKind

structure Parameter where
  type : String
  name : String
  deriving DecidableEq, Repr

/-- An action of a stage: only its name, or with parameters and a glance at its body. -/
inductive ActionEntry where
  | named (name : String)
  | detailed (name : String) (parameters : List Parameter) (preview : Option String)
  deriving DecidableEq, Repr

def ActionEntry.name : ActionEntry → String
  | named name => name
  | detailed name _ _ => name

structure ParserState where
  name : String
  extract : Option String
  transition : Option String
  deriving DecidableEq, Repr

structure ApplyBlock where
  body : Option String
  logic : Option (List String)
  deriving DecidableEq, Repr

/-- A stage. Lists that the document does not give are absent, which is not the same as empty. -/
structure Stage where
  name : String
  kind : StageKind
  tables : List String
  actions : Option (List ActionEntry)
  states : Option (List ParserState)
  applyBlock : Option ApplyBlock
  deriving DecidableEq, Repr

namespace Stage

/-- A stage of which only name and kind are known. -/
def bare (name : String) (kind : StageKind) : Stage := ⟨name, kind, [], none, none, none⟩

def actionList (stage : Stage) : List ActionEntry := stage.actions.getD []

def stateList (stage : Stage) : List ParserState := stage.states.getD []

end Stage

structure Table where
  keys : List String
  actions : List String
  size : Option UInt64
  deriving DecidableEq, Repr

def Table.bare : Table := ⟨[], [], none⟩

structure HeaderField where
  name : String
  bits : UInt32
  deriving DecidableEq, Repr

structure Header where
  name : String
  fields : List HeaderField
  deriving DecidableEq, Repr

/-- The width of a header, the sum of the widths of its fields, in a word of 64 bits. -/
def Header.totalBits (header : Header) : UInt64 :=
  header.fields.foldl (fun sum field => sum + field.bits.toUInt64) 0

/-- An object that the program uses and does not define. -/
structure ExternObject where
  type : String
  name : String
  deriving DecidableEq, Repr

/-- What all stages share. Headers and externs keep the order of the document. -/
structure Registries where
  tables : Registry Table
  headers : List Header
  externs : List ExternObject
  deriving DecidableEq

def Registries.empty : Registries := ⟨.empty, [], []⟩

structure Program where
  stages : List Stage
  registries : Registries
  filename : Option String
  deriving DecidableEq

namespace Program

def empty : Program := ⟨[], .empty, none⟩

instance : Inhabited Program := ⟨empty⟩

def stage? (program : Program) (name : String) : Option Stage :=
  program.stages.find? (·.name = name)

def isEmpty (program : Program) : Bool := program.stages.isEmpty

end Program

end StageAtlas
