import StageAtlas.Program.Decode

/-!
# From program structures to documents

The one way to write a program structure as a document: what is absent is left out, and holes in
the sequences beside the parser states are null.
-/

namespace StageAtlas

namespace Json

def ofNat (n : Nat) : Json := num (Numeral.ofNat n)

def ofStrings (texts : List String) : Json := arr (texts.map str)

def ofString? : Option String → Json
  | some s => str s
  | none => null

end Json

open Json

def optionalMember (key : String) (value : Option Json) : List (String × Json) :=
  (value.map fun v => (key, v)).toList

def Parameter.encode (parameter : Parameter) : Json :=
  obj [("type", str parameter.type), ("name", str parameter.name)]

def ActionEntry.encode : ActionEntry → Json
  | named name => str name
  | detailed name parameters preview =>
      obj ([("name", str name), ("parameters", arr (parameters.map Parameter.encode))] ++
        optionalMember "body_preview" (preview.map str))

def ParserState.encodeAll (states : List ParserState) : List (String × Json) :=
  [("states", ofStrings (states.map (·.name))),
    ("extracts", arr (states.map fun state => ofString? state.extract)),
    ("transitions", arr (states.map fun state => ofString? state.transition))]

def ApplyBlock.encode (block : ApplyBlock) : Json :=
  obj (optionalMember "raw_apply_body" (block.body.map str) ++
    optionalMember "logic" (block.logic.map ofStrings))

def Stage.encode (stage : Stage) : Json :=
  obj ([("type", str stage.kind.label), ("tables", ofStrings stage.tables)] ++
    optionalMember "actions" (stage.actions.map fun actions =>
      arr (actions.map ActionEntry.encode)) ++
    (stage.states.map ParserState.encodeAll).getD [] ++
    optionalMember "apply_logic" (stage.applyBlock.map ApplyBlock.encode))

def Table.encode (table : Table) : Json :=
  obj ([("keys", ofStrings table.keys), ("actions", ofStrings table.actions)] ++
    optionalMember "size" (table.size.map fun size => ofNat size.toNat))

def HeaderField.encode (field : HeaderField) : Json :=
  obj [("field", str field.name), ("bits", ofNat field.bits.toNat)]

def Header.encode (header : Header) : Json := arr (header.fields.map HeaderField.encode)

def ExternObject.encode (object : ExternObject) : Json :=
  obj [("type", str object.type), ("name", str object.name)]

/-- The members of a document that hold the registries. -/
def Registries.encode (registries : Registries) : List (String × Json) :=
  [("_tables", obj (registries.tables.entries.map fun entry => (entry.1, entry.2.encode))),
    ("_headers", obj (registries.headers.map fun header => (header.name, header.encode))),
    ("_externs", arr (registries.externs.map ExternObject.encode))]

def Program.encode (program : Program) : Json :=
  obj (program.stages.map (fun stage => (stage.name, stage.encode)) ++
    program.registries.encode ++ optionalMember "_filename" (program.filename.map str))

/-- The document of a program structure together with a file name, one level up. -/
def Program.envelope (program : Program) (filename : String) : Json :=
  obj [("filename", str filename), ("structure", program.encode)]

end StageAtlas
