import StageAtlas.Toml.DateTime
import StageAtlas.Toml.Draft
import StageAtlas.Toml.Number
import StageAtlas.Toml.Text

/-!
# Reading TOML documents

A document is a table: first the values of the table itself, then the sections under headers.
-/

namespace StageAtlas.Toml

/-! ## Keys -/

def isBare (c : Char) : Bool := c.isAlphanum || c == '-' || c == '_'

def readKeyPart (cs : List Char) : Option (String × List Char) :=
  match cs with
  | '"' :: rest => (readBasic rest).map fun read => (String.ofList read.1, read.2)
  | '\'' :: rest => (readLiteral rest).map fun read => (String.ofList read.1, read.2)
  | _ =>
      let name := cs.takeWhile isBare
      if name = [] then none else some (String.ofList name, cs.dropWhile isBare)

/-- The parts of a key, with dots and blanks between them. The fuel lasts if it is the length of the
text. -/
def readKeyParts : Nat → Reader (List String)
  | 0, _ => none
  | fuel + 1, cs => do
      let (part, rest) ← readKeyPart (skipBlanks cs)
      match skipBlanks rest with
      | '.' :: rest =>
          let (parts, rest) ← readKeyParts fuel rest
          return (part :: parts, rest)
      | rest => return ([part], rest)

/-- Keys have fewer parts than this, and arrays and tables stand in each other less often. -/
def depthLimit : Nat := 80

def readKey : Reader (List String × String) := fun cs => do
  let (parts, rest) ← readKeyParts cs.length cs
  let last ← parts.getLast?
  if parts.length < depthLimit then return ((parts.dropLast, last), rest) else none

def readAssignment (value : Reader Toml) : Reader Assignment := fun cs => do
  let ((path, key), rest) ← readKey cs
  match rest with
  | '=' :: rest =>
      let (v, rest) ← value (skipBlanks rest)
      return (⟨path, key, v⟩, rest)
  | _ => none

/-! ## Values -/

/-- The items of an array up to its closing bracket. A comma may follow the last one. -/
def readItems (value : Reader Toml) : Nat → Reader (List Toml)
  | 0, _ => none
  | fuel + 1, cs => do
      match ← skipLines false cs with
      | ']' :: rest => return ([], rest)
      | cs =>
          let (item, rest) ← value cs
          match ← skipLines false rest with
          | ',' :: rest =>
              let (items, rest) ← readItems value fuel rest
              return (item :: items, rest)
          | ']' :: rest => return ([item], rest)
          | _ => none

/-- The assignments of an inline table from the first one on, up to its closing brace. -/
def readAssignments (value : Reader Toml) : Nat → Reader (List Assignment)
  | 0, _ => none
  | fuel + 1, cs => do
      let (assignment, rest) ← readAssignment value cs
      match skipBlanks rest with
      | ',' :: rest =>
          let (assignments, rest) ← readAssignments value fuel rest
          return (assignment :: assignments, rest)
      | '\x7d' :: rest => return ([assignment], rest)
      | _ => none

def readInline (value : Reader Toml) (fuel : Nat) : Reader Toml := fun cs => do
  let (assignments, rest) ← match skipBlanks cs with
    | '\x7d' :: rest => some ([], rest)
    | rest => readAssignments value fuel rest
  let members ← Members.assignAll [] assignments
  return (.table (finishMembers members), rest)

def word? (word : List Char) (cs : List Char) : Option (List Char) :=
  if word.isPrefixOf cs then some (cs.drop word.length) else none

/-- A value in which fewer than `depth` arrays and tables stand in each other. The fuel bounds every
repetition and lasts if it is the length of the text. -/
def readValue (fuel : Nat) : (depth : Nat) → Reader Toml := fun depth cs =>
  match cs with
  | [] => none
  | c :: rest =>
      if c = '"' ∨ c = '\'' then (readString cs).map fun read => (.string read.1, read.2)
      else if c = '[' then
        match depth with
        | 0 => none
        | depth + 1 => (readItems (readValue fuel depth) fuel rest).map fun read =>
            (.array read.1, read.2)
      else if c = '\x7b' then
        match depth with
        | 0 => none
        | depth + 1 => readInline (readValue fuel depth) fuel rest
      else if c = 't' then (word? ['t', 'r', 'u', 'e'] cs).map fun rest => (.boolean true, rest)
      else if c = 'f' then
        (word? ['f', 'a', 'l', 's', 'e'] cs).map fun rest => (.boolean false, rest)
      else
        match readDateTime cs with
        | some read => some read
        | none => readNumber cs

/-! ## Documents -/

inductive Statement where
  | assignment (assignment : Assignment)
  | header (header : SectionHeader)

def readHeader (cs : List Char) : Option (SectionHeader × List Char) := do
  match cs with
  | '[' :: rest =>
      match ← readKey rest with
      | ((path, key), ']' :: ']' :: rest) => return (⟨path, key, true⟩, rest)
      | _ => none
  | rest =>
      match ← readKey rest with
      | ((path, key), ']' :: rest) => return (⟨path, key, false⟩, rest)
      | _ => none

def readStatement (cs : List Char) : Option (Statement × List Char) :=
  match cs with
  | '[' :: rest => (readHeader rest).map fun read => (.header read.1, read.2)
  | cs => (readAssignment (readValue cs.length (depthLimit - 1)) cs).map fun read =>
      (.assignment read.1, read.2)

/-- The statements of a document. Each ends its line; blank lines and comments say nothing. The fuel
lasts if it is more than the length of the text. -/
def readStatements : Nat → List Char → Option (List Statement)
  | 0, _ => none
  | fuel + 1, cs =>
      match skipBlanks cs with
      | [] => some []
      | c :: rest =>
          if c = '#' ∨ c = '\n' ∨ c = '\r' then do
            readStatements fuel (← finishLine (c :: rest))
          else do
            let (statement, rest) ← readStatement (c :: rest)
            let statements ← readStatements fuel (← finishLine rest)
            return statement :: statements

/-- The assignments before the first header, and those under each header. -/
def sections : List Statement → List Assignment × List (SectionHeader × List Assignment)
  | [] => ([], [])
  | .assignment assignment :: rest =>
      let (first, others) := sections rest
      (assignment :: first, others)
  | .header header :: rest =>
      let (own, others) := sections rest
      ([], (header, own) :: others)

def build (statements : List Statement) : Option Members := do
  let (first, others) := sections statements
  let root ← Members.assignAll [] first
  others.foldlM (fun members part => members.addSection part.1 part.2) root

def dropByteOrder : List Char → List Char
  | '\uFEFF' :: rest => rest
  | cs => cs

/-- The members of the table that a document is; nothing if the text is no document. -/
def read? (text : String) : Option (List (String × Toml)) := do
  let cs := dropByteOrder text.toList
  let statements ← readStatements (cs.length + 1) cs
  return finishMembers (← build statements)

end StageAtlas.Toml
