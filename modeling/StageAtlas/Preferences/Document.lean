import StageAtlas.Preferences.Basic
import StageAtlas.Toml.Reader
import StageAtlas.Toml.Writer

/-!
# The document of preferences

A TOML document with a section for each group of preferences. What it does not say is standard, what
it says of other things is ignored, and what it says in the wrong way is refused.
-/

namespace StageAtlas

namespace Toml

/-- Whether a value can stand for a record: a table by names, an array by places, and a date-time,
which has no parts. -/
def isRecord : Toml → Bool
  | table _ => true
  | array _ => true
  | dateTime _ => true
  | _ => false

/-- The part of a record with a place and a name. -/
def part? (v : Toml) (place : Nat) (name : String) : Option Toml :=
  match v with
  | table members => members.lookup name
  | array items => items[place]?
  | _ => none

/-- What a value says; the standard if there is no value, and nothing if it says it wrongly. -/
def orStandard {α : Type} (standard : α) (decode : Toml → Option α) : Option Toml → Option α
  | none => some standard
  | some v => decode v

def bool? : Toml → Option Bool
  | boolean b => some b
  | _ => none

def string? : Toml → Option String
  | string s => some s
  | _ => none

def natural32? : Toml → Option UInt32
  | integer n => if 0 ≤ n ∧ n.toNat < Nat.pow 2 32 then some (UInt32.ofNat n.toNat) else none
  | _ => none

/-- A number of single precision: a float is rounded, and an integer is one too. -/
def single? : Toml → Option Single
  | float x => some x.convert
  | integer n => some (Binary.ofInt n)
  | _ => none

def isEmpty : Toml → Bool
  | table members => members.isEmpty
  | array items => items.isEmpty
  | _ => false

end Toml

open Toml

def Orientation.ofWord? (word : String) : Option Orientation := all.find? (·.word = word)

/-- The direction that a value names: as a text, or as the only key of a table that says nothing
of it. -/
def Orientation.ofToml? : Toml → Option Orientation
  | .string word => ofWord? word
  | .table [(word, v)] => if v.isEmpty then ofWord? word else none
  | _ => none

def Appearance.ofToml? (v : Toml) : Option Appearance :=
  if v.isRecord then do
    let darkMode ← orStandard standard.darkMode bool? (v.part? 0 "dark_mode")
    let fontScale ← orStandard standard.fontScale single? (v.part? 1 "font_scale")
    return ⟨darkMode, fontScale⟩
  else none

def Layout.ofToml? (v : Toml) : Option Layout :=
  if v.isRecord then do
    let orientation ← orStandard standard.orientation Orientation.ofToml? (v.part? 0 "orientation")
    let spacing ← orStandard standard.spacing single? (v.part? 1 "stage_spacing")
    return ⟨orientation, spacing⟩
  else none

def Logging.ofToml? (v : Toml) : Option Logging :=
  if v.isRecord then do
    let filter ← orStandard standard.filter string? (v.part? 0 "filter")
    let toFile ← orStandard standard.toFile bool? (v.part? 1 "log_to_file")
    return ⟨filter, toFile⟩
  else none

namespace Preferences

/-- The preferences that a value describes, their numbers as they are. -/
def ofToml? (v : Toml) : Option Preferences :=
  if v.isRecord then do
    let version ← orStandard standard.version natural32? (v.part? 0 "version")
    let appearance ← orStandard .standard Appearance.ofToml? (v.part? 1 "ui")
    let layout ← orStandard .standard Layout.ofToml? (v.part? 2 "layout")
    let logging ← orStandard .standard Logging.ofToml? (v.part? 3 "logging")
    return ⟨version, appearance, layout, logging⟩
  else none

/-- The preferences that a text describes, their numbers in range. -/
def parse? (text : String) : Option Preferences := do
  let members ← Toml.read? text
  let preferences ← ofToml? (.table members)
  return preferences.sanitize

def line (key : String) (value : List Char) : List Char :=
  key.toList ++ ' ' :: '=' :: ' ' :: (value ++ ['\n'])

def heading (name : String) : List Char := '\n' :: '[' :: (name.toList ++ [']', '\n'])

def lines (preferences : Preferences) : List (List Char) :=
  [line "version" (writeNat preferences.version.toNat),
    heading "ui",
    line "dark_mode" (writeBool preferences.appearance.darkMode),
    line "font_scale" (writeFloat preferences.appearance.fontScale.convert),
    heading "layout",
    line "orientation" (writeString preferences.layout.orientation.word),
    line "stage_spacing" (writeFloat preferences.layout.spacing.convert),
    heading "logging",
    line "filter" (writeString preferences.logging.filter),
    line "log_to_file" (writeBool preferences.logging.toFile)]

def text (preferences : Preferences) : String := String.ofList preferences.lines.flatten

end Preferences

end StageAtlas
