import StageAtlas.Binary.Decimal
import StageAtlas.Toml.Basic

/-!
# Numbers of TOML

Integers are decimal, or hexadecimal, octal or binary after a mark. Floats have a fraction or an
exponent or both, or are one of the special ones. An underscore may stand between two digits.
-/

namespace StageAtlas.Toml

def digit? (base : Nat) (c : Char) : Option Nat :=
  let value :=
    if c.isDigit then c.toNat - '0'.toNat
    else if 'a' ≤ c ∧ c ≤ 'f' then c.toNat - 'a'.toNat + 10
    else if 'A' ≤ c ∧ c ≤ 'F' then c.toNat - 'A'.toNat + 10
    else 16
  if value < base then some value else none

/-- The digits after a first one; an underscore has to have a digit on either side. -/
def readMoreDigits (base : Nat) : Reader (List Nat)
  | [] => some ([], [])
  | c :: rest =>
      match digit? base c with
      | some digit => (readMoreDigits base rest).map fun read => (digit :: read.1, read.2)
      | none =>
          if c = '_' then
            match rest with
            | [] => none
            | d :: rest =>
                match digit? base d with
                | some digit =>
                    (readMoreDigits base rest).map fun read => (digit :: read.1, read.2)
                | none => none
          else some ([], c :: rest)

def readDigits (base : Nat) : Reader (List Nat)
  | [] => none
  | c :: rest =>
      match digit? base c with
      | some digit => (readMoreDigits base rest).map fun read => (digit :: read.1, read.2)
      | none => none

/-- The digits before a point: a zero stands alone. -/
def readWhole : Reader (List Nat)
  | '0' :: rest => some ([0], rest)
  | cs => readDigits 10 cs

def ofDigits (base : Nat) (digits : List Nat) : Nat :=
  digits.foldl (fun n digit => n * base + digit) 0

def readSign : List Char → Bool × List Char
  | '-' :: rest => (true, rest)
  | '+' :: rest => (false, rest)
  | cs => (false, cs)

def readFraction : Reader (List Nat)
  | '.' :: rest => readDigits 10 rest
  | cs => some ([], cs)

def readExponent : Reader Int
  | c :: rest =>
      if c = 'e' ∨ c = 'E' then
        let (negative, rest) := readSign rest
        (readDigits 10 rest).map fun read =>
          let size : Int := ofDigits 10 read.1
          (if negative then -size else size, read.2)
      else some (0, c :: rest)
  | [] => some (0, [])

/-- The integer of a sign and a magnitude, if it has 64 bits. -/
def integer? (negative : Bool) (magnitude : Nat) : Option Toml :=
  if negative then
    if magnitude ≤ Nat.pow 2 63 then some (.integer (-(magnitude : Int))) else none
  else if magnitude < Nat.pow 2 63 then some (.integer magnitude) else none

/-- The float of a sign and a decimal form; none may grow to positive infinity. -/
def float? (negative : Bool) (d : Decimal) : Option Toml :=
  let x : Double := Binary.ofDecimal negative d
  if x = Binary.infinite false then none else some (.float x)

/-- An integer in another base, read after its mark. -/
def readBased (base : Nat) : Reader Toml := fun cs => do
  let (digits, rest) ← readDigits base cs
  let n ← integer? false (ofDigits base digits)
  return (n, rest)

def readDecimal (negative : Bool) : Reader Toml := fun cs => do
  let (whole, rest) ← readWhole cs
  let (fraction, afterFraction) ← readFraction rest
  let (exponent, afterExponent) ← readExponent afterFraction
  if afterExponent.length = rest.length then
    let n ← integer? negative (ofDigits 10 whole)
    return (n, rest)
  else
    let x ← float? negative
      ⟨ofDigits 10 (whole ++ fraction), exponent - (fraction.length : Int)⟩
    return (x, afterExponent)

def readNumber (cs : List Char) : Option (Toml × List Char) :=
  match cs with
  | '0' :: 'x' :: rest => readBased 16 rest
  | '0' :: 'o' :: rest => readBased 8 rest
  | '0' :: 'b' :: rest => readBased 2 rest
  | _ =>
      match readSign cs with
      | (negative, 'i' :: 'n' :: 'f' :: rest) => some (.float (Binary.infinite negative), rest)
      | (_, 'n' :: 'a' :: 'n' :: rest) => some (.float .nan, rest)
      | (negative, rest) => readDecimal negative rest

end StageAtlas.Toml
