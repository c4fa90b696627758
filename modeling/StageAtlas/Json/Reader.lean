import StageAtlas.Json.Basic
import StageAtlas.Text.Location

/-!
# Reading JSON text

Every function takes the characters that are left and returns what it read with what is left then.
A fault names its cause and how many bytes were left behind the offending one, which fixes its
place in the text.
-/

namespace StageAtlas.Json

inductive Cause where
  | endInValue
  | endInList
  | endInObject
  | endInString
  | valueExpected
  | literalExpected
  | keyExpected
  | colonExpected
  | listMarkExpected
  | objectMarkExpected
  | trailingComma
  | trailingCharacters
  | invalidNumber
  | numberOutOfRange
  | invalidEscape
  | controlCharacter
  | loneSurrogate
  | surrogatePairBroken
  | tooDeep
  deriving DecidableEq, Repr

def Cause.message : Cause → String
  | endInValue => "EOF while parsing a value"
  | endInList => "EOF while parsing a list"
  | endInObject => "EOF while parsing an object"
  | endInString => "EOF while parsing a string"
  | valueExpected => "expected value"
  | literalExpected => "expected ident"
  | keyExpected => "key must be a string"
  | colonExpected => "expected `:`"
  | listMarkExpected => "expected `,` or `]`"
  | objectMarkExpected => "expected `,` or `\x7d`"
  | trailingComma => "trailing comma"
  | trailingCharacters => "trailing characters"
  | invalidNumber => "invalid number"
  | numberOutOfRange => "number out of range"
  | invalidEscape => "invalid escape"
  | controlCharacter => "control character (\\u0000-\\u001F) found while parsing a string"
  | loneSurrogate => "lone leading surrogate in hex escape"
  | surrogatePairBroken => "unexpected end of hex escape"
  | tooDeep => "recursion limit exceeded"

/-- A cause, and the bytes left unread behind the byte that gave it away. -/
structure Fault where
  cause : Cause
  left : Nat
  deriving DecidableEq, Repr

abbrev Reader (α : Type) := List Char → Except Fault (α × List Char)

/-- The fault found at the first byte of the characters, or at the end of the text. -/
def faultAt (cause : Cause) (rest : List Char) : Except Fault α :=
  .error ⟨cause, Text.byteLength rest - 1⟩

def faultBefore (cause : Cause) (rest : List Char) : Except Fault α :=
  .error ⟨cause, Text.byteLength rest⟩

def isSpace (c : Char) : Bool := c == ' ' || c == '\n' || c == '\t' || c == '\r'

def skipSpace (cs : List Char) : List Char := cs.dropWhile isSpace

/-! ## Literals -/

def readWord (value : Json) : List Char → Reader Json
  | [], cs => .ok (value, cs)
  | _ :: _, [] => .error ⟨.endInValue, 0⟩
  | letter :: word, c :: cs =>
      if c = letter then readWord value word cs else faultAt .literalExpected (c :: cs)

/-! ## Numbers -/

def spanDigits (cs : List Char) : List Char × List Char :=
  (cs.takeWhile Char.isDigit, cs.dropWhile Char.isDigit)

def digitValue (c : Char) : Nat := c.toNat - '0'.toNat

/-- The fraction digits after a point, none if there is no point. -/
def readFraction : Reader (List Nat)
  | '.' :: cs =>
      match spanDigits cs with
      | ([], rest) => if rest = [] then .error ⟨.endInValue, 0⟩ else faultAt .invalidNumber rest
      | (digits, rest) => .ok (digits.map digitValue, rest)
  | cs => .ok ([], cs)

/-- The greatest exponent of which all digits are looked at. -/
def greatestExponent : Nat := Nat.pow 2 31 - 1

/-- The exponent's digits up to the one that takes it beyond the greatest exponent, if one does. -/
def overflowAt? : Nat → List Char → Option (List Char)
  | _, [] => none
  | n, c :: cs =>
      if c.isDigit then
        let next := n * 10 + digitValue c
        if greatestExponent < next then some cs else overflowAt? next cs
      else none

/-- The exponent after its mark: its value, and what is left behind the digit that takes a positive
one beyond the greatest exponent. -/
def readExponent : Reader (Option (Int × Option (List Char)))
  | c :: cs =>
      if c = 'e' ∨ c = 'E' then
        let (negative, cs) := match cs with
          | '+' :: rest => (false, rest)
          | '-' :: rest => (true, rest)
          | rest => (false, rest)
        match spanDigits cs with
        | ([], []) => .error ⟨.endInValue, 0⟩
        | ([], rest) => faultAt .invalidNumber rest
        | (digits, rest) =>
            let size := Nat.ofDigitChars 10 digits 0
            if negative then .ok (some (-(size : Int), none), rest)
            else .ok (some (size, overflowAt? 0 cs), rest)
      else .ok (none, c :: cs)
  | [] => .ok (none, [])

/-- A numeral without its sign. One that leaves the range is a fault behind its last character, or
behind the exponent digit that decides it. -/
def readNumeral (negative : Bool) : Reader Json := fun cs =>
  match spanDigits cs with
  | ([], []) => .error ⟨.endInValue, 0⟩
  | ([], rest) => faultAt .invalidNumber rest
  | ('0' :: _ :: _, _) => faultAt .invalidNumber (cs.drop 1)
  | (digits, rest) => do
      let (fraction, rest) ← readFraction rest
      let (exponent, rest) ← readExponent rest
      let numeral : Numeral :=
        ⟨negative, Nat.ofDigitChars 10 digits 0, fraction, exponent.map Prod.fst⟩
      match numeral.number? with
      | some _ => .ok (.num numeral, rest)
      | none => faultBefore .numberOutOfRange ((exponent.bind Prod.snd).getD rest)

/-! ## Strings -/

def hexValue? (c : Char) : Option Nat :=
  if c.isDigit then some (digitValue c)
  else if 'a' ≤ c ∧ c ≤ 'f' then some (c.toNat - 'a'.toNat + 10)
  else if 'A' ≤ c ∧ c ≤ 'F' then some (c.toNat - 'A'.toNat + 10)
  else none

/-- Four hexadecimal digits. Whatever else stands there, the fault is four bytes on. -/
def readHex (cs : List Char) : Except Fault (Nat × List Char) :=
  let wrong : Except Fault (Nat × List Char) :=
    let size := Text.byteLength cs
    if size < 4 then .error ⟨.endInString, 0⟩ else .error ⟨.invalidEscape, size - 4⟩
  match cs with
  | a :: b :: c :: d :: rest =>
      match hexValue? a, hexValue? b, hexValue? c, hexValue? d with
      | some a, some b, some c, some d => .ok (((a * 16 + b) * 16 + c) * 16 + d, rest)
      | _, _, _, _ => wrong
  | _ => wrong

def isHighSurrogate (n : Nat) : Bool := 0xD800 ≤ n && n ≤ 0xDBFF

def isLowSurrogate (n : Nat) : Bool := 0xDC00 ≤ n && n ≤ 0xDFFF

def pairChar (high low : Nat) : Char :=
  Char.ofNat ((high - 0xD800) * 0x400 + (low - 0xDC00) + 0x10000)

def readUnicode (cs : List Char) : Except Fault (Char × List Char) := do
  let (unit, rest) ← readHex cs
  if isLowSurrogate unit then faultBefore .loneSurrogate rest
  else if isHighSurrogate unit then
    match rest with
    | [] => .error ⟨.endInString, 0⟩
    | ['\\'] => .error ⟨.endInString, 0⟩
    | '\\' :: 'u' :: rest =>
        let (low, rest) ← readHex rest
        if isLowSurrogate low then .ok (pairChar unit low, rest)
        else faultBefore .loneSurrogate rest
    | '\\' :: rest => faultAt .surrogatePairBroken rest
    | rest => faultAt .surrogatePairBroken rest
  else .ok (Char.ofNat unit, rest)

def simpleEscape? (c : Char) : Option Char :=
  if c = '"' then some '"'
  else if c = '\\' then some '\\'
  else if c = '/' then some '/'
  else if c = 'b' then some '\x08'
  else if c = 'f' then some '\x0c'
  else if c = 'n' then some '\n'
  else if c = 'r' then some '\r'
  else if c = 't' then some '\t'
  else none

def readEscape : Reader Char
  | [] => .error ⟨.endInString, 0⟩
  | c :: cs =>
      if c = 'u' then readUnicode cs
      else
        match simpleEscape? c with
        | some d => .ok (d, cs)
        | none => faultAt .invalidEscape (c :: cs)

/-- The characters of a string up to its closing quotation mark. Each step takes one character or
one escape off the text, so the fuel lasts if it is the length of the text. -/
def readChars : Nat → Reader (List Char)
  | 0, cs => faultBefore .endInString cs
  | _, [] => .error ⟨.endInString, 0⟩
  | fuel + 1, c :: cs =>
      if c = '"' then .ok ([], cs)
      else if c = '\\' then do
        let (d, rest) ← readEscape cs
        let (ds, rest) ← readChars fuel rest
        .ok (d :: ds, rest)
      else if c.toNat < 0x20 then faultAt .controlCharacter (c :: cs)
      else do
        let (ds, rest) ← readChars fuel cs
        .ok (c :: ds, rest)

def readString (fuel : Nat) : Reader String := fun cs => do
  let (chars, rest) ← readChars fuel cs
  .ok (String.ofList chars, rest)

/-! ## Values -/

/-- The items of an array after the first one, up to its closing bracket. -/
def readItems (item : Reader Json) : Nat → Reader (List Json)
  | 0, cs => faultBefore .endInList cs
  | fuel + 1, cs =>
      match skipSpace cs with
      | [] => .error ⟨.endInList, 0⟩
      | ']' :: rest => .ok ([], rest)
      | ',' :: rest =>
          match skipSpace rest with
          | [] => .error ⟨.endInValue, 0⟩
          | ']' :: rest => faultAt .trailingComma (']' :: rest)
          | rest => do
              let (v, rest) ← item rest
              let (vs, rest) ← readItems item fuel rest
              .ok (v :: vs, rest)
      | rest => faultAt .listMarkExpected rest

def readArray (item : Reader Json) (fuel : Nat) : Reader Json := fun cs =>
  match skipSpace cs with
  | [] => .error ⟨.endInList, 0⟩
  | ']' :: rest => .ok (.arr [], rest)
  | rest => do
      let (v, rest) ← item rest
      let (vs, rest) ← readItems item fuel rest
      .ok (.arr (v :: vs), rest)

/-- A member, read after the quotation mark that opens its key. -/
def readMember (value : Reader Json) (fuel : Nat) : Reader (String × Json) := fun cs => do
  let (key, rest) ← readString fuel cs
  match skipSpace rest with
  | [] => .error ⟨.endInObject, 0⟩
  | ':' :: rest =>
      let (v, rest) ← value rest
      .ok ((key, v), rest)
  | rest => faultAt .colonExpected rest

def readMembers (value : Reader Json) : Nat → Reader (List (String × Json))
  | 0, cs => faultBefore .endInObject cs
  | fuel + 1, cs =>
      match skipSpace cs with
      | [] => .error ⟨.endInObject, 0⟩
      | '\x7d' :: rest => .ok ([], rest)
      | ',' :: rest =>
          match skipSpace rest with
          | [] => .error ⟨.endInValue, 0⟩
          | '"' :: rest => do
              let (m, rest) ← readMember value fuel rest
              let (ms, rest) ← readMembers value fuel rest
              .ok (m :: ms, rest)
          | '\x7d' :: rest => faultAt .trailingComma ('\x7d' :: rest)
          | rest => faultAt .keyExpected rest
      | rest => faultAt .objectMarkExpected rest

def readObject (value : Reader Json) (fuel : Nat) : Reader Json := fun cs =>
  match skipSpace cs with
  | [] => .error ⟨.endInObject, 0⟩
  | '\x7d' :: rest => .ok (.obj [], rest)
  | '"' :: rest => do
      let (m, rest) ← readMember value fuel rest
      let (ms, rest) ← readMembers value fuel rest
      .ok (.obj (m :: ms), rest)
  | rest => faultAt .keyExpected rest

/-- A value in which at most `depth` arrays and objects stand in each other. The fuel bounds every
repetition and lasts if it is the length of the text. -/
def readValue (fuel : Nat) : Nat → Reader Json := fun depth cs =>
  match skipSpace cs with
  | [] => .error ⟨.endInValue, 0⟩
  | c :: rest =>
      if c = 'n' then readWord .null ['u', 'l', 'l'] rest
      else if c = 't' then readWord (.bool true) ['r', 'u', 'e'] rest
      else if c = 'f' then readWord (.bool false) ['a', 'l', 's', 'e'] rest
      else if c = '-' then readNumeral true rest
      else if c.isDigit then readNumeral false (c :: rest)
      else if c = '"' then do
        let (s, rest) ← readString fuel rest
        .ok (.str s, rest)
      else if c = '[' then
        match depth with
        | 0 => faultAt .tooDeep (c :: rest)
        | depth + 1 => readArray (readValue fuel depth) fuel rest
      else if c = '\x7b' then
        match depth with
        | 0 => faultAt .tooDeep (c :: rest)
        | depth + 1 => readObject (readValue fuel depth) fuel rest
      else faultAt .valueExpected (c :: rest)

def greatestDepth : Nat := 127

def readChars? (cs : List Char) : Except Fault Json := do
  let (v, rest) ← readValue cs.length greatestDepth cs
  match skipSpace rest with
  | [] => .ok v
  | rest => faultAt .trailingCharacters rest

def Fault.location (text : List Char) (fault : Fault) : Text.Location :=
  Text.Location.ofOffset text (Text.byteLength text - fault.left)

structure TextFault where
  cause : Cause
  place : Text.Location
  deriving DecidableEq, Repr

def TextFault.message (fault : TextFault) : String :=
  fault.cause.message ++ " at line " ++ toString fault.place.line ++ " column " ++
    toString fault.place.column

def read (text : String) : Except TextFault Json :=
  match readChars? text.toList with
  | .ok v => .ok v
  | .error fault => .error ⟨fault.cause, fault.location text.toList⟩

end StageAtlas.Json
