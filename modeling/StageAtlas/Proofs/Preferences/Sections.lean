import StageAtlas.Preferences.Document
import StageAtlas.Proofs.Toml.Omission

/-! # The parts of preferences

Preferences have a version and three sections, each of which is a record of two parts. What a
document says of preferences it says part by part, so a change to one part is a change to nothing
else.
-/

namespace StageAtlas

open Toml (without)

/-! ## Records of two parts -/

section

variable {α β γ : Type} {make : α → β → γ} {first : Option Toml → Option α}
  {second : Option Toml → Option β} {firstKey secondKey : String}
  {members : List (String × Toml)} {gone : String → Bool} {whole : γ}

/-- What a value says that stands for a record of two parts. -/
def pair? (make : α → β → γ) (first : Option Toml → Option α) (second : Option Toml → Option β)
    (firstKey secondKey : String) (v : Toml) : Option γ :=
  if v.isRecord then do
    let a ← first (v.part? 0 firstKey)
    let b ← second (v.part? 1 secondKey)
    return make a b
  else none

end

theorem Appearance.ofToml?_eq : Appearance.ofToml? = pair? Appearance.mk
    (Toml.orStandard standard.darkMode Toml.bool?) (Toml.orStandard standard.fontScale Toml.single?)
    "dark_mode" "font_scale" :=
  rfl

theorem Layout.ofToml?_eq : Layout.ofToml? = pair? Layout.mk
    (Toml.orStandard standard.orientation Orientation.ofToml?)
    (Toml.orStandard standard.spacing Toml.single?) "orientation" "stage_spacing" :=
  rfl

theorem Logging.ofToml?_eq : Logging.ofToml? = pair? Logging.mk
    (Toml.orStandard standard.filter Toml.string?) (Toml.orStandard standard.toFile Toml.bool?)
    "filter" "log_to_file" :=
  rfl

namespace Preferences

variable {preferences next : Preferences} {members left : List (String × Toml)}

/-! ## Keys and sections -/

/-- What a key of a file is about. -/
inductive Field where
  | version
  | darkMode
  | fontScale
  | orientation
  | spacing
  | filter
  | toFile

/-- What a section of a file is about. -/
inductive Group where
  | appearance
  | layout
  | logging

def Field.all : List Field := [version, darkMode, fontScale, orientation, spacing, filter, toFile]

def Group.all : List Group := [appearance, layout, logging]

def Group.name : Group → String
  | appearance => "ui"
  | layout => "layout"
  | logging => "logging"

def Group.reset (preferences : Preferences) : Group → Preferences
  | appearance => { preferences with appearance := standard.appearance }
  | layout => { preferences with layout := standard.layout }
  | logging => { preferences with logging := standard.logging }

def Field.path : Field → List String
  | version => ["version"]
  | darkMode => ["ui", "dark_mode"]
  | fontScale => ["ui", "font_scale"]
  | orientation => ["layout", "orientation"]
  | spacing => ["layout", "stage_spacing"]
  | filter => ["logging", "filter"]
  | toFile => ["logging", "log_to_file"]

def Field.reset (preferences : Preferences) : Field → Preferences
  | version => { preferences with version := standard.version }
  | darkMode =>
      { preferences with
        appearance := { preferences.appearance with darkMode := standard.appearance.darkMode } }
  | fontScale =>
      { preferences with
        appearance := { preferences.appearance with fontScale := standard.appearance.fontScale } }
  | orientation =>
      { preferences with
        layout := { preferences.layout with orientation := standard.layout.orientation } }
  | spacing =>
      { preferences with layout := { preferences.layout with spacing := standard.layout.spacing } }
  | filter =>
      { preferences with logging := { preferences.logging with filter := standard.logging.filter } }
  | toFile =>
      { preferences with logging := { preferences.logging with toFile := standard.logging.toFile } }

/-! The standard numbers are in range, so it makes no difference whether sanitizing comes first. -/

/-- The parts that a file has by their names. -/
inductive Part where
  | version
  | group (group : Group)

def Part.all : List Part := .version :: Group.all.map .group

def Part.name : Part → String
  | .version => "version"
  | .group which => which.name

def Field.part : Field → Part
  | version => .version
  | darkMode | fontScale => .group .appearance
  | orientation | spacing => .group .layout
  | filter | toFile => .group .logging

end Preferences

end StageAtlas
