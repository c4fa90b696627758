import StageAtlas.Binary.Arithmetic

/-!
# Points and rectangles

Lengths are numbers of single precision, and every operation rounds.
-/

namespace StageAtlas

/-- A point, or the way from one point to another. -/
structure Point where
  x : Single
  y : Single
  deriving DecidableEq

namespace Point

def zero : Point := ⟨0, 0⟩

instance : Inhabited Point := ⟨zero⟩

def add (p q : Point) : Point := ⟨p.x + q.x, p.y + q.y⟩

def sub (p q : Point) : Point := ⟨p.x - q.x, p.y - q.y⟩

def scale (p : Point) (factor : Single) : Point := ⟨p.x * factor, p.y * factor⟩

instance : Add Point := ⟨add⟩
instance : Sub Point := ⟨sub⟩

def length (p : Point) : Single := Binary.hypot p.x p.y

/-- The way of length one in the same direction; a way without length stays. -/
def normalize (p : Point) : Point :=
  let size := p.length
  if size.le 0 then p else ⟨p.x / size, p.y / size⟩

def swap (p : Point) : Point := ⟨p.y, p.x⟩

end Point

structure Rect where
  low : Point
  high : Point
  deriving DecidableEq

namespace Rect

def ofSize (corner size : Point) : Rect := ⟨corner, corner + size⟩

/-- Whether a point lies in the rectangle; its edges belong to it. -/
def contains (r : Rect) (p : Point) : Bool :=
  r.low.x.le p.x && p.x.le r.high.x && r.low.y.le p.y && p.y.le r.high.y

def intersects (r s : Rect) : Bool :=
  r.low.x.le s.high.x && s.low.x.le r.high.x && r.low.y.le s.high.y && s.low.y.le r.high.y

def half : Single := Binary.ofRatio false 1 2

def center (r : Rect) : Point := ⟨(r.low.x + r.high.x) / 2, (r.low.y + r.high.y) / 2⟩

end Rect

end StageAtlas
