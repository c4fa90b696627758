import StageAtlas.Program.Basic

/-!
# Colors

A color is a share of each component and its cover, which the components already account for.
-/

namespace StageAtlas

structure Color where
  red : Nat
  green : Nat
  blue : Nat
  cover : Nat
  deriving DecidableEq, Repr

namespace Color

def solid (red green blue : Nat) : Color := ⟨red, green, blue, 255⟩

def gray (shade : Nat) : Color := solid shade shade shade

def whiteOf (cover : Nat) : Color := ⟨cover, cover, cover, cover⟩

def white : Color := whiteOf 255

end Color

/-- The color of a kind; all unfamiliar kinds share one. -/
def StageKind.color : StageKind → Color
  | parser => .solid 59 130 246
  | control => .solid 16 185 129
  | deparser => .solid 249 115 22
  | other _ => .solid 100 116 139

end StageAtlas
