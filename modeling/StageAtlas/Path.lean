/-!
# Paths

A path is a text whose pieces are divided by slashes. Empty pieces and single dots do not count,
except a dot at the start.
-/

namespace StageAtlas

abbrev Path := String

namespace Path

def here : List Char := ['.']

def above : List Char := ['.', '.']

def splitSlashes : List Char → List (List Char)
  | [] => [[]]
  | c :: rest =>
      match splitSlashes rest with
      | [] => [[c]]
      | piece :: others => if c = '/' then [] :: piece :: others else (c :: piece) :: others

def pieces (path : Path) : List (List Char) := (splitSlashes path.toList).filter (· ≠ [])

def isAbsolute (path : Path) : Bool := path.toList.head? == some '/'

def endsInSlash (path : Path) : Bool := path.toList.getLast? == some '/'

/-- The pieces without the dots that do not count. -/
def significant (path : Path) : List (List Char) :=
  match path.pieces with
  | [] => []
  | first :: rest =>
      if path.isAbsolute then (first :: rest).filter (· ≠ here)
      else first :: rest.filter (· ≠ here)

/-- The last piece that counts, if it is a name. -/
def fileName? (path : Path) : Option String :=
  match path.significant.getLast? with
  | none => none
  | some name => if name = here ∨ name = above then none else some (String.ofList name)

/-- A text read from its end, without the slashes and the dots between slashes it ends in. A lone
slash stays. -/
def trimEnd : List Char → List Char
  | [] => []
  | '/' :: rest => if rest = [] then ['/'] else trimEnd rest
  | '.' :: '/' :: rest => trimEnd ('/' :: rest)
  | c :: rest => c :: rest

theorem length_trimEnd_le (cs : List Char) : (trimEnd cs).length ≤ cs.length := by
  fun_induction trimEnd cs with
  | case1 => simp
  | case2 => simp
  | case3 rest _ ih => exact Nat.le_succ_of_le ih
  | case4 rest ih => exact Nat.le_succ_of_le ih
  | case5 => exact Nat.le_refl _

theorem trimEnd_head_slash {cs rest : List Char} (h : trimEnd cs = '/' :: rest) : rest = [] := by
  fun_induction trimEnd cs with
  | case1 => simp at h
  | case2 => simpa using h.symm
  | case3 _ _ ih => exact ih h
  | case4 _ ih => exact ih h
  | case5 c cs h1 _ =>
      obtain ⟨rfl, rfl⟩ := List.cons.inj h
      exact (h1 rfl).elim

/-- The path without its last piece; nothing for the root and for the empty path. -/
def parent? (path : Path) : Option Path :=
  let whole := trimEnd path.toList.reverse
  if whole = [] ∨ whole = ['/'] then none
  else some (String.ofList (trimEnd (whole.dropWhile (· ≠ '/'))).reverse)

theorem length_parent?_lt {path dir : Path} (h : path.parent? = some dir) :
    dir.toList.length < path.toList.length := by
  simp only [parent?] at h
  split at h
  · simp at h
  · rename_i hwhole
    obtain ⟨hnil, hroot⟩ := not_or.1 hwhole
    cases Option.some.inj h
    have htrim := length_trimEnd_le path.toList.reverse
    cases hw : trimEnd path.toList.reverse with
    | nil => exact absurd hw hnil
    | cons c rest =>
        by_cases hc : c = '/'
        · subst hc
          exact absurd (trimEnd_head_slash hw ▸ hw) hroot
        · have hdrop : ((c :: rest).dropWhile (· ≠ '/')).length ≤ rest.length := by
            simp only [List.dropWhile_cons, ne_eq, hc, not_false_eq_true, decide_true, if_true]
            exact (List.dropWhile_suffix _).length_le
          have hlast := length_trimEnd_le ((c :: rest).dropWhile (· ≠ '/'))
          rw [hw] at htrim
          simp only [String.toList_ofList, List.length_reverse, List.length_cons] at htrim ⊢
          omega

end Path

end StageAtlas
