import StageAtlas.Keyed
import StageAtlas.Toml.Reader

/-! # Leaving keys out of a document

Keys are left out of a document statement by statement, down to the keys of tables that stand under
one of its own. What is left is a document again. Other keys have the values that they had, and
of a table there is left what its other keys say, or nothing if only dots or headers made it.
-/

namespace StageAtlas.Toml

/-! ## What is left out -/

/-- A value without some keys if it is a table. -/
def without (gone : String → Bool) : Toml → Toml
  | table members => table (Keyed.without gone members)
  | v => v

/-- Keys to leave out: some of a document itself, and under each of its keys some of a table that
stands there. -/
structure Omission where
  root : String → Bool
  inner : String → String → Bool

namespace Omission

/-- Whether a key is left out, or one on the way to it. -/
def drops (omission : Omission) : List String → Bool
  | [] => false
  | [name] => omission.root name
  | name :: key :: _ => omission.root name || omission.inner name key

def value (omission : Omission) : List String → Toml → Toml
  | [name], v => v.without (omission.inner name)
  | _, v => v

/-- What is left of an assignment in the table with some path. -/
def assignment? (omission : Omission) (base : List String) (a : Assignment) : Option Assignment :=
  let place := base ++ a.path ++ [a.key]
  if omission.drops place then none else some { a with value := omission.value place a.value }

def statements (omission : Omission) : (base : List String) → List Statement → List Statement
  | _, [] => []
  | base, .assignment a :: rest =>
      match omission.assignment? base a with
      | some left => .assignment left :: omission.statements base rest
      | none => omission.statements base rest
  | _, .header header :: rest =>
      let base := header.path ++ [header.key]
      if omission.drops base then omission.statements base rest
      else .header header :: omission.statements base rest

def section? (omission : Omission) (part : SectionHeader × List Assignment) :
    Option (SectionHeader × List Assignment) :=
  let base := part.1.path ++ [part.1.key]
  if omission.drops base then none
  else some (part.1, part.2.filterMap (omission.assignment? base))

variable {omission : Omission}

end Omission

/-! ## Runs over what is left -/

/-- What a step comes to of which nothing may be left: all stays, or what is left of it is done. -/
def ComesTo {τ β : Type} (stepLeft : τ → β → Option τ) (R : τ → Prop) (t : τ) : Option β → Prop
  | none => R t
  | some b => ∃ after, stepLeft t b = some after ∧ R after

/-- A run over a list, followed by a run over what is left of the list. -/
theorem exists_foldlM_filterMap {σ τ α β : Type} {R : σ → τ → Prop} {step : σ → α → Option σ}
    {stepLeft : τ → β → Option τ} {left? : α → Option β}
    (hstep : ∀ s t a next, R s t → step s a = some next → ComesTo stepLeft (R next) t (left? a))
    {s last : σ} {t : τ} (h : R s t) {as : List α} (hrun : as.foldlM step s = some last) :
    ∃ after, (as.filterMap left?).foldlM stepLeft t = some after ∧ R last after := by
  induction as generalizing s t with
  | nil =>
      obtain rfl := Option.some.inj hrun
      exact ⟨t, rfl, h⟩
  | cons a as ih =>
      rw [List.foldlM_cons] at hrun
      obtain ⟨next, hnext, hrest⟩ := Option.bind_eq_some_iff.1 hrun
      have hcomes := hstep s t a next h hnext
      cases ha : left? a with
      | none =>
          rw [ha] at hcomes
          rw [List.filterMap_cons_none ha]
          exact ih hcomes hrest
      | some b =>
          rw [ha] at hcomes
          obtain ⟨after, hafter, hR⟩ := hcomes
          obtain ⟨final, hfinal, hlast⟩ := ih hR hrest
          refine ⟨final, ?_, hlast⟩
          rw [List.filterMap_cons_some ha, List.foldlM_cons, hafter]
          exact hfinal

/-! ## Changes at a key -/

namespace Members

variable {members next : Members} {key : String} {gone : String → Bool}

theorem alter_eq (members : Members) (key : String) (change : Option Draft → Option Draft) :
    members.alter key change = (change (members.lookup key)).map (Keyed.put members key) := by
  induction members with
  | nil => rfl
  | cons member rest ih =>
      obtain ⟨k, draft⟩ := member
      by_cases h : k = key
      · subst h
        simp [alter, Keyed.put]
      · have hne : (key == k) = false := beq_eq_false_iff_ne.2 (Ne.symm h)
        rw [alter, if_neg h, ih, List.lookup_cons, hne]
        simp only [Option.map_map]
        congr 1
        funext draft
        simp [Keyed.put, h]

theorem alter_eq_some {change : Option Draft → Option Draft}
    (h : members.alter key change = some next) :
    ∃ draft, change (members.lookup key) = some draft ∧ next = Keyed.put members key draft := by
  rw [alter_eq] at h
  obtain ⟨draft, hdraft, hnext⟩ := Option.map_eq_some_iff.1 h
  exact ⟨draft, hdraft, hnext.symm⟩

/-- A change of members that depends on nothing but what stands at a key, and sets nothing else. -/
def ActsAt (key : String) (change : Members → Option Members) : Prop :=
  ∃ alteration, ∀ members, change members = members.alter key alteration

theorem actsAt_none (key : String) : ActsAt key fun _ => none := by
  refine ⟨fun _ => none, fun members => ?_⟩
  rw [alter_eq]
  rfl

/-- A change at a key that is left out is not seen among the others, and at another key it is made
there likewise. -/
theorem ActsAt.without {change : Members → Option Members} (h : ActsAt key change)
    (gone : String → Bool) (hchange : change members = some next) :
    (gone key = true → Keyed.without gone next = Keyed.without gone members) ∧
      (gone key = false →
        change (Keyed.without gone members) = some (Keyed.without gone next)) := by
  obtain ⟨alteration, halteration⟩ := h
  rw [halteration] at hchange
  obtain ⟨draft, hdraft, rfl⟩ := alter_eq_some hchange
  constructor
  · intro hgone
    exact Keyed.without_put_of_gone hgone members draft
  · intro hgone
    rw [halteration, alter_eq, Keyed.lookup_without hgone, hdraft, Keyed.without_put hgone]
    rfl

/-! ## Statements act at one key -/

/-- The first key on the way along a path to a key. -/
def firstKey (path : List String) (key : String) : String := path.headD key

/-- How a table comes about that a dotted key or a header passes. -/
def passed (byKey : Bool) : Origin := if byKey then .passedByKey else .passedByHeader

/-- What a change in the table at the end of a path does to the first entry on the way there. -/
def enter (byKey : Bool) (change : Origin → Members → Option Members) (path : List String) :
    Option Draft → Option Draft
  | none => (within byKey change path (passed byKey) []).map (.table (passed byKey))
  | some (.value _) => none
  | some (.table origin inner) =>
      if byKey ∧ origin = .opened then none
      else (within byKey change path origin inner).map (.table origin)
  | some (.tables earlier last) =>
      (within byKey change path .opened last).map (.tables earlier)

theorem within_cons (byKey : Bool) (change : Origin → Members → Option Members) (name : String)
    (path : List String) (origin : Origin) (members : Members) :
    within byKey change (name :: path) origin members =
      members.alter name (enter byKey change path) := by
  rw [within]
  rfl

theorem actsAt_within {change : Origin → Members → Option Members}
    (h : ∀ origin, ActsAt key (change origin)) (byKey : Bool) (path : List String)
    (origin : Origin) : ActsAt (firstKey path key) (within byKey change path origin) := by
  cases path with
  | nil => exact h origin
  | cons name path => exact ⟨_, within_cons byKey change name path origin⟩

def fresh (v : Toml) : Option Draft → Option Draft
  | none => some (.value v)
  | some _ => none

def give (a : Assignment) (origin : Origin) (inner : Members) : Option Members :=
  if (origin = .passedByKey) ↔ a.path = [] then none else inner.alter a.key (fresh a.value)

theorem assign_eq (members : Members) (a : Assignment) :
    members.assign a = within true (give a) a.path .opened members :=
  rfl

theorem actsAt_give (a : Assignment) (origin : Origin) : ActsAt a.key (give a origin) := by
  by_cases h : (origin = .passedByKey) ↔ a.path = []
  · have hnone : give a origin = fun _ => none := funext fun inner => if_pos h
    rw [hnone]
    exact actsAt_none a.key
  · exact ⟨_, fun inner => if_neg h⟩

theorem actsAt_assign (a : Assignment) :
    ActsAt (firstKey a.path a.key) fun members => members.assign a :=
  actsAt_within (actsAt_give a) true a.path .opened

theorem assignAll_without {left? : Assignment → Option Assignment}
    (hleft : ∀ a, left? a = if gone (firstKey a.path a.key) then none else some a)
    {assignments : List Assignment} (h : members.assignAll assignments = some next) :
    assignAll (Keyed.without gone members) (assignments.filterMap left?) =
      some (Keyed.without gone next) := by
  have hstep (members left : Members) (a : Assignment) (next : Members)
      (hmembers : left = Keyed.without gone members) (hnext : members.assign a = some next) :
      ComesTo assign (fun left => left = Keyed.without gone next) left (left? a) := by
    obtain ⟨hdropped, hkept⟩ := (actsAt_assign a).without gone hnext
    rw [hleft, hmembers]
    cases hgone : gone (firstKey a.path a.key) with
    | true => exact (hdropped hgone).symm
    | false => exact ⟨_, hkept hgone, rfl⟩
  obtain ⟨after, hafter, rfl⟩ := exists_foldlM_filterMap hstep rfl h
  exact hafter

/-- What a header does to the entry of its key, with the assignments that stand under it. -/
def openWith (several : Bool) (assignments : List Assignment) (draft : Option Draft) :
    Option Draft :=
  if several then
    match draft with
    | none => (assignAll [] assignments).map (.tables [])
    | some (.tables earlier last) =>
        (assignAll [] assignments).map (.tables (earlier ++ [last]))
    | some _ => none
  else
    match draft with
    | none => (assignAll [] assignments).map (.table .opened)
    | some (.table .passedByHeader begun) => (assignAll begun assignments).map (.table .opened)
    | some _ => none

theorem addSection_eq (members : Members) (header : SectionHeader)
    (assignments : List Assignment) :
    members.addSection header assignments =
      within false (fun _ inner => inner.alter header.key (openWith header.several assignments))
        header.path .opened members :=
  rfl

end Members

/-! ## What is left of an entry -/

open Members

variable {gone : String → Bool} {byKey : Bool}

/-- How a table came about, and how it comes about when keys are left out: if dots made it first, a
header may make it now. -/
def Follows (byKey : Bool) (origin left : Origin) : Prop :=
  left = origin ∨ (origin = .passedByKey ∧ left = passed byKey)

/-- An entry under construction, and what is left of it. A table that dots or headers made on the
way is gone with its last key, and may be made again. -/
inductive Remains (gone : String → Bool) (byKey : Bool) : Option Draft → Option Draft → Prop
  | absent : Remains gone byKey none none
  | value (v : Toml) : Remains gone byKey (some (.value v)) (some (.value (v.without gone)))
  | table {origin left : Origin} (members : Members) (h : Follows byKey origin left) :
      Remains gone byKey (some (.table origin members))
        (some (.table left (Keyed.without gone members)))
  | vanished {origin : Origin} {members : Members} {key : String} (hgone : gone key = true)
      (h : Follows byKey origin (passed byKey)) (hnone : Keyed.without gone members = []) :
      Remains gone byKey (some (.table origin members)) none
  | tables (earlier : List Members) (last : Members) :
      Remains gone byKey (some (.tables earlier last))
        (some (.tables (earlier.map (Keyed.without gone)) (Keyed.without gone last)))

theorem Follows.header {origin left : Origin} (h : Follows true origin left) : left = origin := by
  rcases h with rfl | ⟨rfl, rfl⟩ <;> rfl

theorem Follows.ne_opened {origin left : Origin} (h : Follows byKey origin left)
    (hopen : ¬(byKey = true ∧ origin = .opened)) : ¬(byKey = true ∧ left = .opened) := by
  rcases h with rfl | ⟨-, rfl⟩
  · exact hopen
  · cases byKey <;> decide

namespace Remains

variable {draft left : Option Draft} {next : Draft}

theorem eq_none (h : Remains gone byKey none left) : left = none := by
  cases h
  rfl

/-- A change further in, at a key that is left out or at one that is not. Only dotted keys look at
how the table came about that they lead to. -/
theorem enter {key : String} {change : Origin → Members → Option Members} {path : List String}
    (hacts : ∀ origin, ActsAt key (within byKey change path origin))
    (hsame : byKey = true ∨
      ∀ origin other, within byKey change path origin = within byKey change path other)
    (h : Remains gone byKey draft left)
    (hnext : Members.enter byKey change path draft = some next) :
    (gone key = true → Remains gone byKey (some next) left) ∧
      (gone key = false → ∃ after, Members.enter byKey change path left = some after ∧
        Remains gone byKey (some next) (some after)) := by
  have hfollows {origin left : Origin} (h : Follows byKey origin left) :
      within byKey change path left = within byKey change path origin := by
    rcases hsame with rfl | hsame
    · rw [h.header]
    · exact hsame left origin
  cases h with
  | absent =>
      obtain ⟨inner, hinner, rfl⟩ := Option.map_eq_some_iff.1 hnext
      obtain ⟨hdropped, hkept⟩ := (hacts _).without gone hinner
      refine ⟨fun hkey => .vanished hkey (.inl rfl) (hdropped hkey), fun hkey => ?_⟩
      have hleft : within byKey change path (passed byKey) [] = some (Keyed.without gone inner) :=
        hkept hkey
      exact ⟨_, by rw [Members.enter, hleft]; rfl, .table inner (.inl rfl)⟩
  | value v => cases hnext
  | table members horigin =>
      rw [Members.enter] at hnext
      split at hnext
      · cases hnext
      · rename_i hopen
        obtain ⟨inner, hinner, rfl⟩ := Option.map_eq_some_iff.1 hnext
        obtain ⟨hdropped, hkept⟩ := (hacts _).without gone hinner
        refine ⟨fun hkey => ?_, fun hkey => ?_⟩
        · rw [← hdropped hkey]
          exact .table inner horigin
        · refine ⟨_, ?_, .table inner horigin⟩
          rw [Members.enter, if_neg (horigin.ne_opened hopen), hfollows horigin, hkept hkey]
          rfl
  | vanished hgone horigin hnone =>
      rw [Members.enter] at hnext
      split at hnext
      · cases hnext
      · obtain ⟨inner, hinner, rfl⟩ := Option.map_eq_some_iff.1 hnext
        obtain ⟨hdropped, hkept⟩ := (hacts _).without gone hinner
        rw [hnone] at hdropped hkept
        refine ⟨fun hkey => .vanished hgone horigin (hdropped hkey), fun hkey => ?_⟩
        exact ⟨_, by rw [Members.enter, hfollows horigin, hkept hkey]; rfl, .table inner horigin⟩
  | tables earlier last =>
      obtain ⟨inner, hinner, rfl⟩ := Option.map_eq_some_iff.1 hnext
      obtain ⟨hdropped, hkept⟩ := (hacts _).without gone hinner
      refine ⟨fun hkey => ?_, fun hkey => ?_⟩
      · rw [← hdropped hkey]
        exact .tables earlier inner
      · exact ⟨_, by rw [Members.enter, hkept hkey]; rfl, .tables earlier inner⟩

/-- A header over an entry, when some of the assignments under it are left out. -/
theorem openWith {left? : Assignment → Option Assignment}
    (hleft : ∀ a, left? a = if gone (firstKey a.path a.key) then none else some a)
    {several : Bool} {assignments : List Assignment} (h : Remains gone false draft left)
    (hnext : Members.openWith several assignments draft = some next) :
    ∃ after, Members.openWith several (assignments.filterMap left?) left = some after ∧
      Remains gone false (some next) (some after) := by
  have hbody {begun inner : Members} (hinner : begun.assignAll assignments = some inner) :
      assignAll (Keyed.without gone begun) (assignments.filterMap left?) =
        some (Keyed.without gone inner) :=
    assignAll_without hleft hinner
  cases several with
  | true =>
      cases h with
      | absent =>
          obtain ⟨inner, hinner, rfl⟩ := Option.map_eq_some_iff.1 hnext
          exact ⟨_, congrArg (Option.map (Draft.tables [])) (hbody hinner), .tables [] inner⟩
      | value v => cases hnext
      | table members horigin => cases hnext
      | vanished hgone horigin hnone => cases hnext
      | tables earlier last =>
          obtain ⟨inner, hinner, rfl⟩ := Option.map_eq_some_iff.1 hnext
          have htables := @Remains.tables gone false (earlier ++ [last]) inner
          rw [List.map_append] at htables
          exact ⟨_, congrArg (Option.map (Draft.tables _)) (hbody hinner), htables⟩
  | false =>
      cases h with
      | absent =>
          obtain ⟨inner, hinner, rfl⟩ := Option.map_eq_some_iff.1 hnext
          exact ⟨_, congrArg (Option.map (Draft.table .opened)) (hbody hinner),
            .table inner (.inl rfl)⟩
      | value v => cases hnext
      | @table origin left members horigin =>
          cases origin with
          | opened | passedByKey => cases hnext
          | passedByHeader =>
              obtain ⟨inner, hinner, rfl⟩ := Option.map_eq_some_iff.1 hnext
              obtain rfl : left = .passedByHeader := by simpa [Follows] using horigin
              exact ⟨_, congrArg (Option.map (Draft.table .opened)) (hbody hinner),
                .table inner (.inl rfl)⟩
      | @vanished origin members _ _ horigin hnone =>
          cases origin with
          | opened | passedByKey => cases hnext
          | passedByHeader =>
              -- Nothing is left of the table so far, and the header makes it as a new one.
              obtain ⟨inner, hinner, rfl⟩ := Option.map_eq_some_iff.1 hnext
              have hrest := hbody hinner
              rw [hnone] at hrest
              exact ⟨_, congrArg (Option.map (Draft.table .opened)) hrest, .table inner (.inl rfl)⟩
      | tables earlier last => cases hnext

end Remains

end StageAtlas.Toml
