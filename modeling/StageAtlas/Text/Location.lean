/-!
# Places in a text

A place is a line, counted from one, and a column, counted in UTF-8 bytes from the last line break.
-/

namespace StageAtlas.Text

def byteLength : List Char → Nat
  | [] => 0
  | c :: rest => c.utf8Size + byteLength rest

@[simp] theorem byteLength_nil : byteLength [] = 0 := rfl

@[simp] theorem byteLength_cons (c : Char) (rest : List Char) :
    byteLength (c :: rest) = c.utf8Size + byteLength rest := rfl

structure Location where
  line : Nat
  column : Nat
  deriving DecidableEq, Repr

namespace Location

def start : Location := ⟨1, 0⟩

/-- The place `count` bytes further on. A line break opens the next line at column zero. -/
def advance : Location → List Char → Nat → Location
  | place, [], _ => place
  | place, _ :: _, 0 => place
  | place, c :: rest, count + 1 =>
      if c = '\n' then advance ⟨place.line + 1, 0⟩ rest count
      else if c.utf8Size ≤ count + 1 then
        advance ⟨place.line, place.column + c.utf8Size⟩ rest (count + 1 - c.utf8Size)
      else ⟨place.line, place.column + (count + 1)⟩

/-- The place after the first `count` bytes of a text. -/
def ofOffset (text : List Char) (count : Nat) : Location := start.advance text count

@[simp] theorem ofOffset_zero (text : List Char) : ofOffset text 0 = start := by
  cases text <;> rfl

end Location

end StageAtlas.Text
