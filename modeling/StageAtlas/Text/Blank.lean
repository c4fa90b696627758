/-!
# Blank characters

The white space of Unicode, and the text that is left when it is cut off at both ends.
-/

namespace StageAtlas.Text

/-- The characters with the Unicode property of white space. -/
def isBlank (c : Char) : Bool :=
  let code := c.toNat
  (0x9 ≤ code && code ≤ 0xD) || code == 0x20 || code == 0x85 || code == 0xA0 || code == 0x1680 ||
    (0x2000 ≤ code && code ≤ 0x200A) || code == 0x2028 || code == 0x2029 || code == 0x202F ||
    code == 0x205F || code == 0x3000

def trimBlank (cs : List Char) : List Char :=
  ((cs.dropWhile isBlank).reverse.dropWhile isBlank).reverse

@[simp] theorem trimBlank_nil : trimBlank [] = [] := rfl

end StageAtlas.Text
