import StageAtlas.Binary.Arithmetic

/-!
# TOML values

What a TOML document says, without the way it is written.
-/

namespace StageAtlas

/-- A TOML value. A date-time keeps its text. -/
inductive Toml where
  | string (s : String)
  | integer (n : Int)
  | float (x : Double)
  | boolean (b : Bool)
  | dateTime (written : String)
  | array (items : List Toml)
  | table (members : List (String × Toml))
  deriving Inhabited

namespace Toml

/-- A reading function on characters: what was read and what is left, if it can be read. -/
abbrev Reader (α : Type) := List Char → Option (α × List Char)

/-! ## Blanks, line ends and comments -/

def isBlank (c : Char) : Bool := c == ' ' || c == '\t'

def skipBlanks (cs : List Char) : List Char := cs.dropWhile isBlank

/-- The characters of texts and comments: all but controls, the tabulator excepted. -/
def isPrintable (c : Char) : Bool := c == '\t' || (0x20 ≤ c.toNat && c.toNat != 0x7F)

def lineEnd? : List Char → Option (List Char)
  | '\n' :: rest => some rest
  | '\r' :: '\n' :: rest => some rest
  | _ => none

/-- What follows the end of a line, before which there may be blanks and a comment. -/
def finishLine (cs : List Char) : Option (List Char) :=
  let rest := match skipBlanks cs with
    | '#' :: rest => rest.dropWhile isPrintable
    | rest => rest
  if rest = [] then some [] else lineEnd? rest

/-- What follows blanks, line ends and comments, each comment with its line end. -/
def skipLines : (inComment : Bool) → List Char → Option (List Char)
  | false, [] => some []
  | true, [] => none
  | _, '\n' :: rest => skipLines false rest
  | _, '\r' :: '\n' :: rest => skipLines false rest
  | false, c :: rest =>
      if isBlank c then skipLines false rest
      else if c = '#' then skipLines true rest
      else some (c :: rest)
  | true, c :: rest => if isPrintable c then skipLines true rest else none

end Toml

end StageAtlas
