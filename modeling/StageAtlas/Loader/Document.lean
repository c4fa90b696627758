import StageAtlas.Failure
import StageAtlas.Program.Decode

/-!
# Reading documents

A document is a program structure, or an envelope that names the file it came from.
-/

namespace StageAtlas.Document

def describe : Json → String
  | .null => "null"
  | .bool _ => "a boolean"
  | .num _ => "a number"
  | .str _ => "a string"
  | .arr _ => "an array"
  | .obj _ => "an object"

/-- The structure and the file name of an envelope: an object with these two keys and no other,
and a name that is a string. -/
def envelope? (v : Json) : Option (Json × String) :=
  if v.fields.length = 2 then
    match v.field? "structure", v.stringField? "filename" with
    | some content, some filename => some (content, filename)
    | _, _ => none
  else none

/-- The structure of a document and the file name that its envelope gives, if it has one. -/
def body (v : Json) : Json × Option String :=
  match envelope? v with
  | some (content, filename) => (content, some filename)
  | none => (v, none)

def isStructure : Json → Bool
  | .null => true
  | .obj _ => true
  | _ => false

/-- The program that a value describes. The envelope names it, else the structure, else the
fallback. -/
def interpret (v : Json) (fallback : Option String) : Outcome Program :=
  let (content, filename) := body v
  if isStructure content then
    let program := Program.decode content
    .ok { program with filename := (filename <|> program.filename) <|> fallback }
  else .error (.document ("expected a JSON object, found " ++ describe content))

def parse (text : String) (fallback : Option String) : Outcome Program :=
  match Json.read text with
  | .error fault => .error (.json fault)
  | .ok v => interpret v fallback

end StageAtlas.Document
