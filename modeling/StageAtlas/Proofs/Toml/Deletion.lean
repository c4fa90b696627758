import StageAtlas.Proofs.Toml.Documents
import StageAtlas.Proofs.Toml.Omission

/-! # Documents from which keys are deleted

A document that says what another one says, but for some keys, is a document too. What it says under
the other keys is the same, and of a table the keys that are left say the same.
-/

namespace StageAtlas.Toml

open Members

variable {omission : Omission}

/-! ## Assignments and headers that are left -/

namespace Omission

theorem assignment?_of_place {base : List String} {a : Assignment} {name key : String}
    {more : List String} (h : base ++ a.path ++ [a.key] = name :: key :: more) :
    omission.assignment? base a =
      if omission.root name || omission.inner name key then none else some a := by
  simp only [assignment?, h, drops, value]

theorem place_cons (name : String) (path : List String) (key : String) :
    ∃ more, name :: path ++ [key] = name :: firstKey path key :: more := by
  cases path with
  | nil => exact ⟨[], rfl⟩
  | cons first path => exact ⟨path ++ [key], rfl⟩

/-- Under a header with one name it is the first key of an assignment that counts. -/
theorem assignment?_under {name : String} (h : omission.root name = false) (a : Assignment) :
    omission.assignment? [name] a =
      if omission.inner name (firstKey a.path a.key) then none else some a := by
  obtain ⟨more, hplace⟩ := place_cons name a.path a.key
  have hbase : [name] ++ a.path ++ [a.key] = name :: firstKey a.path a.key :: more := hplace
  rw [assignment?_of_place hbase, h, Bool.false_or]

/-- Under a header with several names that is left, all is left. -/
theorem assignment?_below {name key : String} {more : List String}
    (h : omission.drops (name :: key :: more) = false) (a : Assignment) :
    omission.assignment? (name :: key :: more) a = some a := by
  have hkept : (omission.root name || omission.inner name key) = false := h
  have hplace : name :: key :: more ++ a.path ++ [a.key] =
      name :: key :: (more ++ a.path ++ [a.key]) := rfl
  rw [assignment?_of_place hplace, hkept]
  rfl

/-! ## The entries of a document -/

/-- The members of a document under construction, and those of what is left of it. -/
structure Leaves (omission : Omission) (byKey : Bool) (members left : Members) : Prop where
  dropped : ∀ name, omission.root name = true → left.lookup name = none
  remains : ∀ name, omission.root name = false →
    Remains (omission.inner name) byKey (members.lookup name) (left.lookup name)

namespace Leaves

variable {byKey : Bool} {members left next : Members} {name : String} {draft after : Draft}

theorem empty (omission : Omission) : omission.Leaves true [] [] :=
  ⟨fun _ _ => rfl, fun _ _ => .absent⟩

theorem skip (h : omission.Leaves byKey members left)
    (hentry : omission.root name = false →
      Remains (omission.inner name) byKey (some draft) (left.lookup name)) :
    omission.Leaves byKey (Keyed.put members name draft) left := by
  refine ⟨h.dropped, fun other hother => ?_⟩
  rw [Keyed.lookup_put]
  split
  · rename_i heq
    subst heq
    exact hentry hother
  · exact h.remains other hother

theorem put (h : omission.Leaves byKey members left) (hname : omission.root name = false)
    (hentry : Remains (omission.inner name) byKey (some draft) (some after)) :
    omission.Leaves byKey (Keyed.put members name draft) (Keyed.put left name after) := by
  constructor
  · intro other hother
    have hne : other ≠ name := by
      rintro rfl
      rw [hname] at hother
      cases hother
    rw [Keyed.lookup_put, if_neg hne]
    exact h.dropped other hother
  · intro other hother
    rw [Keyed.lookup_put, Keyed.lookup_put]
    split
    · rename_i heq
      subst heq
      exact hentry
    · exact h.remains other hother

theorem alter_of_lookup {change : Option Draft → Option Draft}
    (h : change (left.lookup name) = some after) :
    left.alter name change = some (Keyed.put left name after) := by
  rw [alter_eq, h]
  rfl

/-! ## Steps -/

theorem assign_own {a : Assignment} (hpath : a.path = []) (h : omission.Leaves true members left)
    (hnext : members.assign a = some next) :
    ComesTo Members.assign (omission.Leaves true next) left (omission.assignment? [] a) := by
  have hassign (members : Members) (b : Assignment) (hb : b.path = []) :
      members.assign b = members.alter b.key (fresh b.value) := by
    simp [assign_eq, hb, within, give]
  rw [hassign members a hpath] at hnext
  obtain ⟨draft, hdraft, rfl⟩ := alter_eq_some hnext
  obtain ⟨hnone, rfl⟩ : members.lookup a.key = none ∧ .value a.value = draft := by
    cases hlookup : members.lookup a.key with
    | none => rw [hlookup] at hdraft; exact ⟨rfl, Option.some.inj hdraft⟩
    | some other => rw [hlookup] at hdraft; cases hdraft
  have hleft : omission.assignment? [] a =
      if omission.root a.key then none
      else some { a with value := a.value.without (omission.inner a.key) } := by
    simp [assignment?, hpath, drops, value]
  rw [hleft]
  cases hroot : omission.root a.key with
  | true => exact h.skip fun hkept => absurd (hroot.symm.trans hkept) (by decide)
  | false =>
      have hentry := h.remains a.key hroot
      rw [hnone] at hentry
      have hafter : fresh (a.value.without (omission.inner a.key)) (left.lookup a.key) =
          some (.value (a.value.without (omission.inner a.key))) := by
        rw [hentry.eq_none]
        rfl
      have halter := hassign left { a with value := a.value.without (omission.inner a.key) } hpath
      exact ⟨_, halter.trans (alter_of_lookup hafter), h.put hroot (.value a.value)⟩

/-- A change further in, at a key that may be left out, or in a table that may be. -/
theorem alter_enter {β : Type} {change : Origin → Members → Option Members} {path : List String}
    {key : String} {stepLeft : Members → β → Option Members} {b : β}
    (hacts : ∀ origin, ActsAt key (within byKey change path origin))
    (hsame : byKey = true ∨
      ∀ origin other, within byKey change path origin = within byKey change path other)
    (h : omission.Leaves byKey members left)
    (hnext : members.alter name (enter byKey change path) = some next)
    (hleft : omission.root name = false → omission.inner name key = false →
      stepLeft left b = left.alter name (enter byKey change path)) :
    ComesTo stepLeft (omission.Leaves byKey next) left
      (if omission.root name || omission.inner name key then none else some b) := by
  obtain ⟨draft, hdraft, rfl⟩ := alter_eq_some hnext
  cases hroot : omission.root name with
  | true => exact h.skip fun hkept => absurd (hroot.symm.trans hkept) (by decide)
  | false =>
      obtain ⟨hgone, hkept⟩ := (h.remains name hroot).enter hacts hsame hdraft
      cases hinner : omission.inner name key with
      | true => exact h.skip fun _ => hgone hinner
      | false =>
          obtain ⟨after, hafter, hentry⟩ := hkept hinner
          exact ⟨_, (hleft hroot hinner).trans (alter_of_lookup hafter), h.put hroot hentry⟩

theorem assign {a : Assignment} (h : omission.Leaves true members left)
    (hnext : members.assign a = some next) :
    ComesTo Members.assign (omission.Leaves true next) left (omission.assignment? [] a) := by
  cases hpath : a.path with
  | nil => exact h.assign_own hpath hnext
  | cons name path =>
      obtain ⟨more, hplace⟩ := place_cons name path a.key
      have hassign (members : Members) :
          members.assign a = members.alter name (Members.enter true (give a) path) := by
        rw [assign_eq, hpath, within_cons]
      rw [hassign] at hnext
      rw [assignment?_of_place (by rw [hpath]; exact hplace)]
      exact h.alter_enter (actsAt_within (actsAt_give a) true path) (.inl rfl) hnext
        fun _ _ => hassign left

/-- A header of the document itself, of whose assignments some may be left out. -/
theorem addSection_own {key : String} {several : Bool} {assignments : List Assignment}
    (h : omission.Leaves false members left)
    (hnext : members.addSection ⟨[], key, several⟩ assignments = some next) :
    ComesTo (fun members part => members.addSection part.1 part.2) (omission.Leaves false next) left
      (omission.section? (⟨[], key, several⟩, assignments)) := by
  have hadd (members : Members) (assignments : List Assignment) :
      members.addSection ⟨[], key, several⟩ assignments =
        members.alter key (Members.openWith several assignments) := rfl
  rw [hadd] at hnext
  obtain ⟨draft, hdraft, rfl⟩ := alter_eq_some hnext
  have hleft : omission.section? (⟨[], key, several⟩, assignments) =
      if omission.root key then none
      else some (⟨[], key, several⟩, assignments.filterMap (omission.assignment? [key])) := rfl
  rw [hleft]
  cases hroot : omission.root key with
  | true => exact h.skip fun hkept => absurd (hroot.symm.trans hkept) (by decide)
  | false =>
      obtain ⟨after, hafter, hentry⟩ :=
        (h.remains key hroot).openWith (assignment?_under hroot) hdraft
      exact ⟨_, alter_of_lookup hafter, h.put hroot hentry⟩

/-- A header further in, which is left out with its assignments or not at all. -/
theorem addSection_below {path : List String} {key : String} {several : Bool}
    {assignments : List Assignment} (h : omission.Leaves false members left)
    (hnext : members.addSection ⟨name :: path, key, several⟩ assignments = some next) :
    ComesTo (fun members part => members.addSection part.1 part.2) (omission.Leaves false next) left
      (omission.section? (⟨name :: path, key, several⟩, assignments)) := by
  let change : Origin → Members → Option Members := fun _ inner =>
    inner.alter key (Members.openWith several assignments)
  have hadd (members : Members) :
      members.addSection ⟨name :: path, key, several⟩ assignments =
        members.alter name (Members.enter false change path) := by
    rw [addSection_eq, within_cons]
  rw [hadd] at hnext
  have hacts : ∀ origin, ActsAt (firstKey path key) (within false change path origin) :=
    actsAt_within (fun _ => ⟨_, fun _ => rfl⟩) false path
  -- A header passes tables whichever way they came about.
  have hsame : ∀ origin other,
      within false change path origin = within false change path other := by
    intro origin other
    cases path with
    | nil => rfl
    | cons first path => exact funext fun inner => by rw [within_cons, within_cons]
  obtain ⟨more, hplace⟩ := place_cons name path key
  have hleft : omission.section? (⟨name :: path, key, several⟩, assignments) =
      if omission.root name || omission.inner name (firstKey path key) then none
      else some (⟨name :: path, key, several⟩,
        assignments.filterMap (omission.assignment? (name :: firstKey path key :: more))) := by
    simp only [section?, hplace, drops]
  rw [hleft]
  refine h.alter_enter hacts (.inr hsame) hnext fun hroot hinner => ?_
  have hkept : omission.drops (name :: firstKey path key :: more) = false := by
    rw [drops, hroot, hinner]
    rfl
  rw [funext (assignment?_below hkept), List.filterMap_some]
  exact hadd left

theorem addSection {part : SectionHeader × List Assignment}
    (h : omission.Leaves false members left)
    (hnext : members.addSection part.1 part.2 = some next) :
    ComesTo (fun members part => members.addSection part.1 part.2) (omission.Leaves false next) left
      (omission.section? part) := by
  obtain ⟨⟨path, key, several⟩, assignments⟩ := part
  cases path with
  | nil => exact h.addSection_own hnext
  | cons name path => exact h.addSection_below hnext

end Leaves

end Omission

/-! ## What is left of values -/

theorem finishMembers_eq_map (members : Members) :
    finishMembers members = members.map fun member => (member.1, member.2.finish) := by
  induction members with
  | nil => rfl
  | cons member members ih => rw [finishMembers, ih]; rfl

theorem lookup_finishMembers (members : Members) (key : String) :
    (finishMembers members).lookup key = (members.lookup key).map Draft.finish := by
  rw [finishMembers_eq_map, Keyed.lookup_map]

theorem table_finishMembers_without (gone : String → Bool) (members : Members) :
    table (finishMembers (Keyed.without gone members)) =
      (table (finishMembers members)).without gone := by
  rw [Toml.without, finishMembers_eq_map, finishMembers_eq_map, Keyed.without, Keyed.without,
    List.filter_map]
  rfl

def isArray : Toml → Bool
  | array _ => true
  | _ => false

/-- A value under a key, and what is left of it. A table may be gone altogether with the last of its
keys. -/
def LeftOf (gone : String → Bool) (v left : Option Toml) : Prop :=
  left = v.map (without gone) ∨
    (∃ key, gone key = true) ∧ left = none ∧ v.map (without gone) = some (table [])

/-- Among several tables under one header no keys are left out. -/
theorem Remains.finish {gone : String → Bool} {byKey : Bool} {draft left : Option Draft}
    (h : Remains gone byKey draft left)
    (harray : ∀ key, gone key = true → (draft.map Draft.finish).any isArray = false) :
    LeftOf gone (draft.map Draft.finish) (left.map Draft.finish) := by
  cases h with
  | absent => exact .inl rfl
  | value v => exact .inl rfl
  | table members h => exact .inl (congrArg some (table_finishMembers_without gone members))
  | @vanished origin members key hgone h hnone =>
      have hfinish := table_finishMembers_without gone members
      rw [hnone] at hfinish
      exact .inr ⟨⟨_, hgone⟩, rfl, congrArg some hfinish.symm⟩
  | tables earlier last =>
      have hkept : ∀ key, gone key = false := by
        intro key
        cases hgone : gone key with
        | false => rfl
        | true => cases harray key hgone
      rw [Keyed.without_eq_self hkept, List.map_id]
      exact .inl rfl

theorem Remains.isArray_eq {gone : String → Bool} {byKey : Bool} {draft left : Option Draft}
    (h : Remains gone byKey draft left) :
    (left.map Draft.finish).any isArray = (draft.map Draft.finish).any isArray := by
  cases h with
  | value v => cases v <;> rfl
  | _ => rfl

/-- The entries of a document, and those of what is left of it. -/
structure Omission.Keeps (omission : Omission) (members left : List (String × Toml)) : Prop where
  dropped : ∀ name, omission.root name = true → left.lookup name = none
  leftOf : ∀ name, omission.root name = false →
    (∀ key, omission.inner name key = true → (members.lookup name).any isArray = false) →
    LeftOf (omission.inner name) (members.lookup name) (left.lookup name)
  isArray_eq : ∀ name, omission.root name = false →
    (left.lookup name).any isArray = (members.lookup name).any isArray

theorem Omission.Leaves.finish {byKey : Bool} {members left : Members}
    (h : omission.Leaves byKey members left) :
    omission.Keeps (finishMembers members) (finishMembers left) := by
  refine ⟨fun name hname => ?_, fun name hname harray => ?_, fun name hname => ?_⟩
  · rw [lookup_finishMembers, h.dropped name hname]
    rfl
  · rw [lookup_finishMembers] at harray
    rw [lookup_finishMembers, lookup_finishMembers]
    exact (h.remains name hname).finish harray
  · rw [lookup_finishMembers, lookup_finishMembers]
    exact (h.remains name hname).isArray_eq

namespace Omission.Keeps

variable {members left : List (String × Toml)} {name : String}

end Omission.Keeps

/-! ## Texts -/

variable {text : String} {members : List (String × Toml)}

end StageAtlas.Toml
