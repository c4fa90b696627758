import StageAtlas.Json.Writer
import StageAtlas.Program.Basic

/-!
# From documents to program structures

Every value decodes. What is missing becomes absent or empty, and what has the wrong shape becomes
neutral, so one malformed part never costs the others.
-/

namespace StageAtlas

/-- Keys that begin with an underscore name registries and remarks, not stages. -/
def isReserved (key : String) : Bool := key.toList.head? == some '_'

def unnamed : String := "unnamed"

namespace Json

def stringField? (v : Json) (key : String) : Option String := (v.field? key).bind string?

def itemsField? (v : Json) (key : String) : Option (List Json) := (v.field? key).bind items?

def labelsField (v : Json) (key : String) : List String := ((v.itemsField? key).getD []).map label

end Json

namespace Parameter

/-- A parameter is an object with type and name, or any other value by its text. -/
def decode (v : Json) : Parameter :=
  if v.isObject then ⟨(v.stringField? "type").getD "", (v.stringField? "name").getD unnamed⟩
  else ⟨"", v.label⟩

end Parameter

namespace ActionEntry

/-- An action is an object with details, or any other value by its text. -/
def decode (v : Json) : ActionEntry :=
  if v.isObject then
    .detailed ((v.stringField? "name").getD unnamed)
      (((v.itemsField? "parameters").getD []).map Parameter.decode) (v.stringField? "body_preview")
  else .named v.label

end ActionEntry

namespace ParserState

/-- The string at a place of a sequence that may be shorter or hold other things. -/
def aligned (items : Option (List Json)) (index : Nat) : Option String :=
  (items.bind fun list => list[index]?).bind Json.string?

/-- The states with what stands at the same place in the other two sequences. -/
def decodeAll (states : List Json) (extracts transitions : Option (List Json)) :
    List ParserState :=
  states.mapIdx fun index state =>
    ⟨state.label, aligned extracts index, aligned transitions index⟩

end ParserState

namespace ApplyBlock

def decode (v : Json) : ApplyBlock :=
  ⟨v.stringField? "raw_apply_body", (v.itemsField? "logic").map fun items => items.map Json.label⟩

end ApplyBlock

namespace Stage

/-- The kind of a stage: what its type says, if it is a string. -/
def decodeKind (v : Json) : StageKind :=
  match v.stringField? "type" with
  | some label => .ofLabel label
  | none => .unknown

def decode (name : String) (v : Json) : Stage :=
  if v.isObject then
    { name
      kind := decodeKind v
      tables := v.labelsField "tables"
      actions := (v.itemsField? "actions").map fun items => items.map ActionEntry.decode
      states := (v.itemsField? "states").map fun items =>
        ParserState.decodeAll items (v.itemsField? "extracts") (v.itemsField? "transitions")
      applyBlock := ((v.field? "apply_logic").filter Json.isObject).map ApplyBlock.decode }
  else bare name .unknown

@[simp] theorem name_decode (name : String) (v : Json) : (decode name v).name = name := by
  unfold decode
  split <;> rfl

end Stage

namespace Table

def decode (v : Json) : Table :=
  ⟨v.labelsField "keys", v.labelsField "actions",
    ((v.field? "size").bind Json.natural?).map UInt64.ofNat⟩

end Table

namespace HeaderField

/-- The width that a value gives: a natural number of 32 bits, or zero. -/
def decodeBits (v : Option Json) : UInt32 :=
  match v.bind Json.natural? with
  | some n => if n < Nat.pow 2 32 then UInt32.ofNat n else 0
  | none => 0

def decode? (v : Json) : Option HeaderField :=
  if v.isObject then some ⟨(v.stringField? "field").getD unnamed, decodeBits (v.field? "bits")⟩
  else none

end HeaderField

namespace Header

def decode (name : String) (v : Json) : Header :=
  ⟨name, (v.items?.getD []).filterMap HeaderField.decode?⟩

end Header

namespace ExternObject

def decode? (v : Json) : Option ExternObject :=
  if v.isObject then
    some ⟨(v.stringField? "type").getD "", (v.stringField? "name").getD unnamed⟩
  else none

end ExternObject

namespace Registries

def decodeTables (v : Json) : Registry Table :=
  .ofList (v.fields.map fun field => (field.1, Table.decode field.2))

def decodeHeaders (v : Json) : List Header :=
  v.fields.map fun field => Header.decode field.1 field.2

def decodeExterns (v : Json) : List ExternObject :=
  (v.items?.getD []).filterMap ExternObject.decode?

def decode (v : Json) : Registries :=
  ⟨((v.field? "_tables").map decodeTables).getD .empty,
    ((v.field? "_headers").map decodeHeaders).getD [],
    ((v.field? "_externs").map decodeExterns).getD []⟩

end Registries

namespace Program

def stageFields (v : Json) : List (String × Json) :=
  v.fields.filter fun field => !isReserved field.1

def decode (v : Json) : Program :=
  ⟨(stageFields v).map fun field => Stage.decode field.1 field.2, Registries.decode v,
    v.stringField? "_filename"⟩

theorem map_name_stages_decode (v : Json) :
    (decode v).stages.map Stage.name = (stageFields v).map Prod.fst := by
  simp [decode, Function.comp_def]

/-- The keys of an object differ, so the stages differ in name. -/
theorem nodup_names_decode (v : Json) : ((decode v).stages.map Stage.name).Nodup := by
  rw [map_name_stages_decode]
  exact (List.filter_sublist.map Prod.fst).nodup v.nodup_keys_fields

end Program

end StageAtlas
