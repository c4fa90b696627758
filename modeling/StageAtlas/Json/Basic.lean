import StageAtlas.Json.Numeral
import StageAtlas.Keyed

/-!
# JSON values

A value keeps what was written, with the members of an object in their order and with repeated
keys. The fields of an object are what its members mean: each key once, at its first place and with
its last value.
-/

namespace StageAtlas

inductive Json where
  | null
  | bool (b : Bool)
  | num (n : Json.Numeral)
  | str (s : String)
  | arr (items : List Json)
  | obj (members : List (String × Json))
  deriving Repr, Inhabited

namespace Json

def fields? : Json → Option (List (String × Json))
  | obj members => some (Keyed.collapse members)
  | _ => none

def fields (v : Json) : List (String × Json) := v.fields?.getD []

def field? (v : Json) (key : String) : Option Json := v.fields.lookup key

def items? : Json → Option (List Json)
  | arr items => some items
  | _ => none

def string? : Json → Option String
  | str s => some s
  | _ => none

/-- The natural number of 64 bits that the value is; nothing for any other value, however close. -/
def natural? : Json → Option Nat
  | num n => n.natural?
  | _ => none

def isObject (v : Json) : Bool := v.fields?.isSome

@[simp] theorem fields?_obj (members : List (String × Json)) :
    (obj members).fields? = some (Keyed.collapse members) := rfl

@[simp] theorem fields_obj (members : List (String × Json)) :
    (obj members).fields = Keyed.collapse members := rfl

@[simp] theorem isObject_obj (members : List (String × Json)) : (obj members).isObject = true := rfl

/-- An object whose keys differ has the fields that it lists. -/
theorem fields_obj_of_nodup {members : List (String × Json)} (h : (members.map Prod.fst).Nodup) :
    (obj members).fields = members := Keyed.collapse_of_nodup h

theorem field?_obj_of_nodup {members : List (String × Json)} (h : (members.map Prod.fst).Nodup)
    (key : String) : (obj members).field? key = members.lookup key := by
  rw [field?, fields_obj_of_nodup h]

theorem nodup_keys_fields (v : Json) : (v.fields.map Prod.fst).Nodup := by
  cases v with
  | obj members => exact Keyed.nodup_keys_collapse members
  | _ => exact List.nodup_nil

mutual

/-- The value with each object reduced to its fields, at every depth. -/
def normalize : Json → Json
  | null => null
  | bool b => bool b
  | num n => num n
  | str s => str s
  | arr items => arr (normalizeItems items)
  | obj members => obj (Keyed.collapse (normalizeMembers members))

def normalizeItems : List Json → List Json
  | [] => []
  | item :: rest => normalize item :: normalizeItems rest

def normalizeMembers : List (String × Json) → List (String × Json)
  | [] => []
  | (key, value) :: rest => (key, normalize value) :: normalizeMembers rest

end

theorem normalizeItems_eq_map (items : List Json) : normalizeItems items = items.map normalize := by
  induction items with
  | nil => rw [normalizeItems]; rfl
  | cons item rest ih => rw [normalizeItems, ih]; rfl

theorem normalizeMembers_eq_map (members : List (String × Json)) :
    normalizeMembers members = members.map fun member => (member.1, member.2.normalize) := by
  induction members with
  | nil => rw [normalizeMembers]; rfl
  | cons member rest ih => rw [normalizeMembers, ih]; rfl

end Json

end StageAtlas
