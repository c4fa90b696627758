import StageAtlas.Binary.Arithmetic

/-!
# Preferences

What is remembered from one run to the next: theme and font scale, the layout of the pipeline, and
logging.
-/

namespace StageAtlas

inductive Orientation where
  | vertical
  | horizontal
  deriving DecidableEq, Repr

namespace Orientation

def all : List Orientation := [vertical, horizontal]

def title : Orientation → String
  | vertical => "Top to bottom"
  | horizontal => "Left to right"

def word : Orientation → String
  | vertical => "vertical"
  | horizontal => "horizontal"

end Orientation

structure Appearance where
  darkMode : Bool
  fontScale : Single
  deriving DecidableEq

structure Layout where
  orientation : Orientation
  spacing : Single
  deriving DecidableEq

structure Logging where
  filter : String
  toFile : Bool
  deriving DecidableEq

structure Preferences where
  version : UInt32
  appearance : Appearance
  layout : Layout
  logging : Logging
  deriving DecidableEq

def Appearance.standard : Appearance := ⟨true, 1⟩

/-- From top to bottom, with room for a card between two. -/
def Layout.standard : Layout := ⟨.vertical, 320⟩

def Logging.standard : Logging := ⟨"info,p4lens=debug", false⟩

namespace Preferences

def standard : Preferences := ⟨1, .standard, .standard, .standard⟩

instance : Inhabited Preferences := ⟨standard⟩

def leastScale : Single := Binary.ofRatio false 1 2

def greatestScale : Single := 3

def sanitizeScale (scale : Single) : Single :=
  (if scale.isFinite then scale else Appearance.standard.fontScale).clamp leastScale greatestScale

def sanitizeSpacing (spacing : Single) : Single :=
  if spacing.isFinite && (0 : Single).lt spacing then spacing else Layout.standard.spacing

def sanitize (preferences : Preferences) : Preferences :=
  { preferences with
    appearance :=
      { preferences.appearance with fontScale := sanitizeScale preferences.appearance.fontScale }
    layout :=
      { preferences.layout with spacing := sanitizeSpacing preferences.layout.spacing } }

end Preferences

end StageAtlas
