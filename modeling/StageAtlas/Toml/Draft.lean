import StageAtlas.Toml.Basic

/-!
# Tables under construction

While a document is read, a table remembers how it came about, which decides what may still be added
to it: a table is opened once, and neither headers nor dotted keys may reach into what the other
has finished.
-/

namespace StageAtlas.Toml

inductive Origin where
  | opened
  | passedByHeader
  | passedByKey
  deriving DecidableEq, Repr

/-- A value under construction. Of several tables that share a header the last one is open. -/
inductive Draft where
  | value (v : Toml)
  | table (origin : Origin) (members : List (String × Draft))
  | tables (earlier : List (List (String × Draft))) (last : List (String × Draft))
  deriving Inhabited

abbrev Members := List (String × Draft)

/-- A value for a key, and the path of tables to it. -/
structure Assignment where
  path : List String
  key : String
  value : Toml

/-- A header: the path of tables to it, its key, and whether it adds one of several tables. -/
structure SectionHeader where
  path : List String
  key : String
  several : Bool

namespace Members

/-- The members with the one of a key changed, or added; nothing if that is not possible. -/
def alter (members : Members) (key : String) (change : Option Draft → Option Draft) :
    Option Members :=
  match members with
  | [] => (change none).map fun draft => [(key, draft)]
  | (k, draft) :: rest =>
      if k = key then (change (some draft)).map fun next => (k, next) :: rest
      else (alter rest key change).map fun next => (k, draft) :: next

/-- The members with a change made in the table at the end of a path. Tables that are missing on the
way come about. A dotted key does not pass through a table that was opened. -/
def within (byKey : Bool) (change : Origin → Members → Option Members) :
    List String → Origin → Members → Option Members
  | [], origin, members => change origin members
  | key :: path, _, members =>
      members.alter key fun draft =>
        match draft with
        | none =>
            let origin := if byKey then .passedByKey else .passedByHeader
            (within byKey change path origin []).map (.table origin)
        | some (.value _) => none
        | some (.table origin inner) =>
            if byKey ∧ origin = .opened then none
            else (within byKey change path origin inner).map (.table origin)
        | some (.tables earlier last) =>
            (within byKey change path .opened last).map (.tables earlier)

/-- The members with one more, in a table that a dotted key may add to if and only if dots led
to it. -/
def assign (members : Members) (assignment : Assignment) : Option Members :=
  within true (fun origin inner =>
    if (origin = .passedByKey) ↔ assignment.path = [] then none
    else inner.alter assignment.key fun
      | none => some (.value assignment.value)
      | some _ => none) assignment.path .opened members

def assignAll (members : Members) (assignments : List Assignment) : Option Members :=
  assignments.foldlM assign members

/-- The members with what stands under a header. A table that only headers below it have named is
opened; any other is not opened twice. -/
def addSection (members : Members) (header : SectionHeader) (assignments : List Assignment) :
    Option Members :=
  within false (fun _ inner =>
    inner.alter header.key fun draft =>
      if header.several then
        match draft with
        | none => (assignAll [] assignments).map (.tables [])
        | some (.tables earlier last) =>
            (assignAll [] assignments).map (.tables (earlier ++ [last]))
        | some _ => none
      else
        match draft with
        | none => (assignAll [] assignments).map (.table .opened)
        | some (.table .passedByHeader begun) =>
            (assignAll begun assignments).map (.table .opened)
        | some _ => none) header.path .opened members

end Members

mutual

def Draft.finish : Draft → Toml
  | .value v => v
  | .table _ members => .table (finishMembers members)
  | .tables earlier last => .array (finishTables earlier ++ [.table (finishMembers last)])

def finishMembers : List (String × Draft) → List (String × Toml)
  | [] => []
  | (key, draft) :: rest => (key, draft.finish) :: finishMembers rest

def finishTables : List (List (String × Draft)) → List Toml
  | [] => []
  | members :: rest => .table (finishMembers members) :: finishTables rest

end

end StageAtlas.Toml
