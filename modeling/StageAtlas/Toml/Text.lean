import StageAtlas.Toml.Basic

/-!
# Strings of TOML

Four forms: basic strings have escapes, literal strings have none, and both come on one line or on
several between tripled delimiters.
-/

namespace StageAtlas.Toml

def hexValue? (c : Char) : Option Nat :=
  if c.isDigit then some (c.toNat - '0'.toNat)
  else if 'a' ≤ c ∧ c ≤ 'f' then some (c.toNat - 'a'.toNat + 10)
  else if 'A' ≤ c ∧ c ≤ 'F' then some (c.toNat - 'A'.toNat + 10)
  else none

/-- The number that hexadecimal digits write, after the digits before them. -/
def hexNumber? : Nat → List Char → Option Nat
  | n, [] => some n
  | n, c :: rest => (hexValue? c).bind fun digit => hexNumber? (n * 16 + digit) rest

def scalar? (code : Nat) : Option Char := if code.isValidChar then some (Char.ofNat code) else none

/-- The character of a code point in a fixed number of hexadecimal digits. -/
def readScalar (size : Nat) : Reader Char := fun cs =>
  if size ≤ cs.length then
    match (hexNumber? 0 (cs.take size)).bind scalar? with
    | some c => some (c, cs.drop size)
    | none => none
  else none

def simpleEscape? (c : Char) : Option Char :=
  if c = 'b' then some '\x08'
  else if c = 't' then some '\t'
  else if c = 'n' then some '\n'
  else if c = 'f' then some '\x0c'
  else if c = 'r' then some '\r'
  else if c = '"' then some '"'
  else if c = '\\' then some '\\'
  else none

def readEscape : Reader Char
  | [] => none
  | c :: rest =>
      if c = 'u' then readScalar 4 rest
      else if c = 'U' then readScalar 8 rest
      else (simpleEscape? c).map fun d => (d, rest)

theorem length_of_readEscape {cs rest : List Char} {c : Char}
    (h : readEscape cs = some (c, rest)) : rest.length < cs.length := by
  have scalar : ∀ {size : Nat} {cs rest : List Char} {c : Char},
      readScalar size cs = some (c, rest) → rest.length ≤ cs.length := by
    intro size cs rest c h
    simp only [readScalar] at h
    split at h
    · split at h
      · obtain ⟨-, rfl⟩ := Prod.mk.inj (Option.some.inj h)
        simp
      · simp at h
    · simp at h
  cases cs with
  | nil => simp [readEscape] at h
  | cons d cs =>
      simp only [readEscape] at h
      split at h
      · exact Nat.lt_succ_of_le (scalar h)
      · split at h
        · exact Nat.lt_succ_of_le (scalar h)
        · obtain ⟨_, _, he⟩ := Option.map_eq_some_iff.1 h
          obtain ⟨-, rfl⟩ := Prod.mk.inj he
          exact Nat.lt_succ_self _

def push (c : Char) (read : List Char × List Char) : List Char × List Char := (c :: read.1, read.2)

def readBasic (cs : List Char) : Option (List Char × List Char) :=
  match cs with
  | [] => none
  | c :: rest =>
      if c = '"' then some ([], rest)
      else if c = '\\' then
        match _h : readEscape rest with
        | some (d, rest') => (readBasic rest').map (push d)
        | none => none
      else if isPrintable c then (readBasic rest).map (push c)
      else none
termination_by cs.length
decreasing_by
  · have := length_of_readEscape ‹_›
    simp only [List.length_cons]
    omega
  · simp

def readLiteral : Reader (List Char)
  | [] => none
  | c :: rest =>
      if c = '\'' then some ([], rest)
      else if isPrintable c then (readLiteral rest).map (push c)
      else none

/-- What follows a line end and the blanks and line ends after it. -/
def skipFold : List Char → List Char
  | '\n' :: rest => skipFold rest
  | '\r' :: '\n' :: rest => skipFold rest
  | c :: rest => if isBlank c then skipFold rest else c :: rest
  | [] => []

/-- What follows a line fold, read after its backslash: the line has to end there, and all blanks
and line ends are left out. -/
def fold? (cs : List Char) : Option (List Char) := (lineEnd? (skipBlanks cs)).map skipFold

theorem length_of_lineEnd? {cs rest : List Char} (h : lineEnd? cs = some rest) :
    rest.length < cs.length := by
  unfold lineEnd? at h
  split at h
  · cases Option.some.inj h
    simp
  · cases Option.some.inj h
    simp only [List.length_cons]
    omega
  · simp at h

theorem length_skipFold_le (cs : List Char) : (skipFold cs).length ≤ cs.length := by
  fun_induction skipFold cs with
  | case1 rest ih => exact Nat.le_succ_of_le ih
  | case2 rest ih => exact Nat.le_succ_of_le (Nat.le_succ_of_le ih)
  | case3 c rest _ _ _ ih => exact Nat.le_succ_of_le ih
  | case4 => exact Nat.le_refl _
  | case5 => exact Nat.le_refl _

theorem length_of_fold? {cs rest : List Char} (h : fold? cs = some rest) :
    rest.length < cs.length := by
  obtain ⟨mid, hmid, rfl⟩ := Option.map_eq_some_iff.1 h
  have h1 := length_of_lineEnd? hmid
  have h2 := length_skipFold_le mid
  have h3 : (skipBlanks cs).length ≤ cs.length := (List.dropWhile_suffix _).length_le
  omega

/-- The delimiters of a string over several lines may touch up to two more of their kind, which
belong to the string. Read after the three that close it. -/
def touching (mark : Char) : List Char → List Char × List Char
  | a :: b :: rest =>
      if a = mark then
        if b = mark then ([mark, mark], rest) else ([mark], b :: rest)
      else ([], a :: b :: rest)
  | [a] => if a = mark then ([mark], []) else ([], [a])
  | [] => ([], [])

/-- What follows three characters of a kind, if there are three. -/
def tripled? (mark : Char) : List Char → Option (List Char)
  | a :: b :: c :: rest => if a = mark ∧ b = mark ∧ c = mark then some rest else none
  | _ => none

/-- A basic string over several lines, read after its opening delimiter. -/
def readBasicLines (cs : List Char) : Option (List Char × List Char) :=
  match cs with
  | [] => none
  | c :: rest =>
      match tripled? '"' (c :: rest) with
      | some closed => some (touching '"' closed)
      | none =>
          match _h : lineEnd? (c :: rest) with
          | some next => (readBasicLines next).map (push '\n')
          | none =>
              if c = '\\' then
                match _h : fold? rest with
                | some next => readBasicLines next
                | none =>
                    match _h : readEscape rest with
                    | some (d, next) => (readBasicLines next).map (push d)
                    | none => none
              else if isPrintable c then (readBasicLines rest).map (push c)
              else none
termination_by cs.length
decreasing_by
  · exact length_of_lineEnd? ‹_›
  · have := length_of_fold? ‹_›
    simp only [List.length_cons]
    omega
  · have := length_of_readEscape ‹_›
    simp only [List.length_cons]
    omega
  · simp

def readLiteralLines : Reader (List Char)
  | [] => none
  | c :: rest =>
      match tripled? '\'' (c :: rest) with
      | some closed => some (touching '\'' closed)
      | none =>
          match c, rest with
          | '\r', '\n' :: next => (readLiteralLines next).map (push '\n')
          | c, rest =>
              if c = '\n' ∨ isPrintable c then (readLiteralLines rest).map (push c) else none

def dropLineEnd (cs : List Char) : List Char := (lineEnd? cs).getD cs

def readString (cs : List Char) : Option (String × List Char) :=
  let chars := match cs with
    | '"' :: rest =>
        match tripled? '"' cs with
        | some opened => readBasicLines (dropLineEnd opened)
        | none => readBasic rest
    | '\'' :: rest =>
        match tripled? '\'' cs with
        | some opened => readLiteralLines (dropLineEnd opened)
        | none => readLiteral rest
    | _ => none
  chars.map fun read => (String.ofList read.1, read.2)

end StageAtlas.Toml
