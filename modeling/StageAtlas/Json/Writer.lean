import StageAtlas.Json.Basic

/-!
# Compact JSON text

The text of a value without blanks, fields in their order. Strings escape the quotation mark, the
backslash and the controls, and nothing else.
-/

namespace StageAtlas.Json

def hexChar (n : Nat) : Char := Nat.digitChar n

def escape (c : Char) : List Char :=
  if c = '"' then ['\\', '"']
  else if c = '\\' then ['\\', '\\']
  else if c = '\x08' then ['\\', 'b']
  else if c = '\x0c' then ['\\', 'f']
  else if c = '\n' then ['\\', 'n']
  else if c = '\r' then ['\\', 'r']
  else if c = '\t' then ['\\', 't']
  else if c.toNat < 0x20 then
    ['\\', 'u', '0', '0', hexChar (c.toNat / 16), hexChar (c.toNat % 16)]
  else [c]

def writeString (s : String) : List Char := '"' :: (s.toList.flatMap escape ++ ['"'])

/-- A number; what it denotes decides how it is written. -/
def writeNumeral (n : Numeral) : List Char :=
  match n.number? with
  | some number => number.chars
  | none => ['n', 'u', 'l', 'l']

mutual

def write : Json → List Char
  | null => ['n', 'u', 'l', 'l']
  | bool true => ['t', 'r', 'u', 'e']
  | bool false => ['f', 'a', 'l', 's', 'e']
  | num n => writeNumeral n
  | str s => writeString s
  | arr [] => ['[', ']']
  | arr (item :: rest) => '[' :: (write item ++ writeItems rest)
  | obj [] => ['\x7b', '\x7d']
  | obj ((key, value) :: rest) =>
      '\x7b' :: (writeString key ++ ':' :: (write value ++ writeMembers rest))

/-- The items after the first one, and the bracket that ends the array. -/
def writeItems : List Json → List Char
  | [] => [']']
  | item :: rest => ',' :: (write item ++ writeItems rest)

/-- The members after the first one, and the bracket that ends the object. -/
def writeMembers : List (String × Json) → List Char
  | [] => ['\x7d']
  | (key, value) :: rest =>
      ',' :: (writeString key ++ ':' :: (write value ++ writeMembers rest))

end

def text (v : Json) : String := String.ofList (write v.normalize)

/-- The text that stands for a value where a text is wanted: a string is its own text. -/
def label (v : Json) : String := v.string?.getD v.text

@[simp] theorem label_str (s : String) : (str s).label = s := rfl

end StageAtlas.Json
