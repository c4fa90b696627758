import StageAtlas.Binary.Written
import StageAtlas.Toml.Basic

/-!
# Writing TOML values

A string takes the first form that needs no escapes, and escapes only if none will do. Floats are
written in full, with a point.
-/

namespace StageAtlas.Toml

inductive StringForm where
  | basic
  | literal
  | basicLines
  | literalLines
  deriving DecidableEq, Repr

def longestRun (mark : Char) : (current : Nat) → List Char → Nat
  | current, [] => current
  | current, c :: rest =>
      if c = mark then longestRun mark (current + 1) rest
      else max current (longestRun mark 0 rest)

/-- Whether a character can only be written with an escape. -/
def needsEscape (c : Char) : Bool := !isPrintable c && c != '\n'

namespace StringForm

def choose (cs : List Char) : StringForm :=
  let controls := cs.any needsEscape
  let backslash := cs.contains '\\'
  let lines := cs.contains '\n'
  let quotes := longestRun '"' 0 cs
  let apostrophes := longestRun '\'' 0 cs
  if !controls && !backslash && !lines && quotes == 0 then basic
  else if !controls && !lines && apostrophes == 0 then literal
  else if !controls && !backslash && quotes ≤ 2 then basicLines
  else if !controls && apostrophes ≤ 2 then literalLines
  else if lines then basicLines
  else basic

def delimiter : StringForm → List Char
  | basic => ['"']
  | literal => ['\'']
  | basicLines => ['"', '"', '"']
  | literalLines => ['\'', '\'', '\'']

end StringForm

def upperHexChar (n : Nat) : Char := (Nat.digitChar n).toUpper

/-- How a character is written in a basic string, quotation marks and line breaks apart. -/
def escape (c : Char) : List Char :=
  if c = '\x08' then ['\\', 'b']
  else if c = '\t' then ['\\', 't']
  else if c = '\x0c' then ['\\', 'f']
  else if c = '\r' then ['\\', 'r']
  else if c = '\\' then ['\\', '\\']
  else if needsEscape c then
    ['\\', 'u', '0', '0', upperHexChar (c.toNat / 16), upperHexChar (c.toNat % 16)]
  else [c]

def writeBasic (cs : List Char) : List Char :=
  cs.flatMap fun c =>
    if c = '"' then ['\\', '"'] else if c = '\n' then ['\\', 'n'] else escape c

/-- The characters of a basic string over several lines: every third quotation mark in a row has an
escape. -/
def writeBasicLines : (quotes : Nat) → List Char → List Char
  | _, [] => []
  | quotes, c :: rest =>
      if c = '"' then
        if quotes < 2 then '"' :: writeBasicLines (quotes + 1) rest
        else '\\' :: '"' :: writeBasicLines 0 rest
      else escape c ++ writeBasicLines 0 rest

/-- A string in a form. Over several lines it begins on a line of its own if it has line breaks. -/
def writeStringAs (form : StringForm) (cs : List Char) : List Char :=
  let first := if cs.contains '\n' then ['\n'] else []
  let body := match form with
    | .basic => writeBasic cs
    | .literal => cs
    | .basicLines => first ++ writeBasicLines 0 cs
    | .literalLines => first ++ cs
  form.delimiter ++ body ++ form.delimiter

def writeString (s : String) : List Char := writeStringAs (.choose s.toList) s.toList

def writeNat (n : Nat) : List Char := Nat.toDigits 10 n

def writeBool (b : Bool) : List Char :=
  if b then ['t', 'r', 'u', 'e'] else ['f', 'a', 'l', 's', 'e']

def writeFloat (x : Double) : List Char :=
  match x with
  | .nan => ['n', 'a', 'n']
  | .signed negative ordinal _ =>
      let magnitude :=
        if ordinal = BinaryFormat.double.infinity then ['i', 'n', 'f']
        else (Binary.shortest .double ordinal).plain
      if negative then '-' :: magnitude else magnitude

end StageAtlas.Toml
