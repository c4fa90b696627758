import StageAtlas.Toml.Basic

/-!
# Dates and times of TOML

A date, a time of day, or both, and with both an offset. Only dates that the calendar has count.
-/

namespace StageAtlas.Toml

def readFixed (size : Nat) : Reader Nat := fun cs =>
  let digits := cs.take size
  if digits.length = size ∧ digits.all Char.isDigit then
    some (Nat.ofDigitChars 10 digits 0, cs.drop size)
  else none

def after? (mark : Char) : List Char → Option (List Char)
  | c :: rest => if c = mark then some rest else none
  | [] => none

def daysIn (year month : Nat) : Nat :=
  if month = 2 then
    if year % 4 = 0 ∧ (year % 100 ≠ 0 ∨ year % 400 = 0) then 29 else 28
  else if month = 4 ∨ month = 6 ∨ month = 9 ∨ month = 11 then 30
  else 31

def skipDate (cs : List Char) : Option (List Char) := do
  let (year, rest) ← readFixed 4 cs
  let (month, rest) ← readFixed 2 (← after? '-' rest)
  let (day, rest) ← readFixed 2 (← after? '-' rest)
  if 1 ≤ month ∧ month ≤ 12 ∧ 1 ≤ day ∧ day ≤ daysIn year month then return rest else none

def skipHourMinute (cs : List Char) : Option (List Char) := do
  let (hour, rest) ← readFixed 2 cs
  let (minute, rest) ← readFixed 2 (← after? ':' rest)
  if hour ≤ 23 ∧ minute ≤ 59 then return rest else none

def skipFraction : List Char → List Char
  | '.' :: c :: rest => if c.isDigit then rest.dropWhile Char.isDigit else '.' :: c :: rest
  | cs => cs

/-- What follows a time of day. A minute may have a leap second. -/
def skipTime (cs : List Char) : Option (List Char) := do
  let rest ← skipHourMinute cs
  let (second, rest) ← readFixed 2 (← after? ':' rest)
  if second ≤ 60 then return skipFraction rest else none

def skipOffset : List Char → Option (List Char)
  | c :: rest =>
      if c = 'Z' ∨ c = 'z' then some rest
      else if c = '+' ∨ c = '-' then skipHourMinute rest
      else some (c :: rest)
  | [] => some []

/-- What follows a time after a date, if there is one: a blank that is followed by no time ends the
date. -/
def skipTimeOfDate (cs : List Char) : Option (List Char) :=
  match cs with
  | c :: rest =>
      if c = 'T' ∨ c = 't' ∨ c = ' ' then
        match skipTime rest with
        | some rest => skipOffset rest
        | none => some cs
      else some cs
  | [] => some []

def readDateTime : Reader Toml := fun cs =>
  let rest? := match skipDate cs with
    | some rest => skipTimeOfDate rest
    | none => skipTime cs
  rest?.map fun rest => (.dateTime (String.ofList (cs.take (cs.length - rest.length))), rest)

end StageAtlas.Toml
