import Mathlib.Data.List.Forall2
import Mathlib.Data.List.Permutation
import StageAtlas.Proofs.Program.Entries

/-! # Where the order of keys counts

Decoding asks for parts by their key, so the order of the members of a part is lost, and with it the
places of the registries and all remarks. The order counts in two lists that follow the document:
the stages among its members, and the headers in their registry.
-/

namespace StageAtlas

namespace Json

/-! ## Rearranged values -/

/-- What may become of the value of a key. -/
abbrev Change := String → Json → Json → Prop

/-- Members with the same keys in the same places, the values changed as they may. -/
def Along (change : Change) (members others : List (String × Json)) : Prop :=
  List.Forall₂ (fun member other => member.1 = other.1 ∧ change member.1 member.2 other.2) members
    others

/-- An object whose fields stay in their order while their values change; any other value stays. -/
def InPlace (change : Change) (v w : Json) : Prop :=
  v = w ∨ v.isObject ∧ w.isObject ∧ Along change v.fields w.fields

/-- An object whose fields come in any order while their values change; any other value stays. -/
def Shuffled (change : Change) (v w : Json) : Prop :=
  v = w ∨ v.isObject ∧ w.isObject ∧ ∃ fields, v.fields.Perm fields ∧ Along change fields w.fields

/-- An object whose fields come in any order, with the values that they have. -/
def Reordered : Json → Json → Prop := Shuffled fun _ v w => v = w

/-- An array whose items change one by one; any other value stays. -/
def EachItem (change : Json → Json → Prop) (v w : Json) : Prop :=
  v = w ∨ ∃ items others, v = arr items ∧ w = arr others ∧ List.Forall₂ change items others

variable {change : Change} {v w : Json}

theorem Along.refl (hrefl : ∀ key a, change key a a) (members : List (String × Json)) :
    Along change members members :=
  List.forall₂_same.2 fun member _ => ⟨rfl, hrefl member.1 member.2⟩

/-- Members that a key singles out change as they may. -/
theorem Along.filter {members others : List (String × Json)} (h : Along change members others)
    (p : String → Bool) :
    Along (fun key a b => p key ∧ change key a b) (members.filter fun member => p member.1)
      (others.filter fun other => p other.1) := by
  induction h with
  | nil => exact .nil
  | @cons member other _ _ h _ ih =>
      rw [List.filter_cons, List.filter_cons, ← h.1]
      split
      · rename_i hp
        exact .cons ⟨h.1, hp, h.2⟩ ih
      · exact ih

theorem Along.map_eq {α : Type} {f : String → Json → α}
    (hf : ∀ key a b, change key a b → f key a = f key b) {members others : List (String × Json)}
    (h : Along change members others) :
    (members.map fun member => f member.1 member.2) =
      others.map fun other => f other.1 other.2 := by
  induction h with
  | nil => rfl
  | @cons member other _ _ h _ ih =>
      rw [List.map_cons, List.map_cons, ih, hf _ _ _ h.2, h.1]

theorem Along.eq_of_forall {members others : List (String × Json)} (h : Along change members others)
    (hstay : ∀ key a b, change key a b → a = b) : members = others := by
  induction h with
  | nil => rfl
  | @cons member other _ _ h _ ih => rw [ih, Prod.ext h.1 (hstay _ _ _ h.2)]

theorem Along.rel_lookup {members others : List (String × Json)} (h : Along change members others)
    (key : String) : Option.Rel (change key) (members.lookup key) (others.lookup key) := by
  induction h with
  | nil => exact .none
  | @cons member other _ _ h _ ih =>
      obtain ⟨k, a⟩ := member
      obtain ⟨l, b⟩ := other
      obtain ⟨rfl, hchange⟩ := h
      by_cases hkey : key = k
      · subst hkey
        simpa using Option.Rel.some hchange
      · have hne : (key == k) = false := beq_eq_false_iff_ne.2 hkey
        simpa [List.lookup_cons, hne] using ih

/-- Members whose keys differ are looked up alike in any order. -/
theorem lookup_eq_of_perm {members others : List (String × Json)} (h : members.Perm others)
    (hnodup : (members.map Prod.fst).Nodup) (key : String) :
    members.lookup key = others.lookup key := by
  apply Option.ext
  intro a
  have hothers : (others.map Prod.fst).Nodup := (h.map Prod.fst).nodup_iff.1 hnodup
  rw [lookup_eq_some_iff_of_nodup hnodup, lookup_eq_some_iff_of_nodup hothers, h.mem_iff]

/-- A field keeps its key, and its value changes as it may. -/
theorem Shuffled.rel_field? (hrefl : ∀ key a, change key a a) (h : Shuffled change v w)
    (key : String) : Option.Rel (change key) (v.field? key) (w.field? key) := by
  rcases h with rfl | ⟨_, _, fields, hperm, hfields⟩
  · exact (Along.refl hrefl v.fields).rel_lookup key
  · rw [field?, lookup_eq_of_perm hperm v.nodup_keys_fields]
    exact hfields.rel_lookup key

theorem map_eq_of_rel {α β : Type} {R : α → α → Prop} {f : α → β}
    (hf : ∀ a b, R a b → f a = f b) {x y : Option α} (h : Option.Rel R x y) :
    x.map f = y.map f := by
  cases h with
  | none => rfl
  | some h => exact congrArg some (hf _ _ h)

theorem eq_of_rel_eq {α : Type} {x y : Option α} (h : Option.Rel (fun a b => a = b) x y) :
    x = y := by
  simpa using map_eq_of_rel (f := id) (fun _ _ heq => heq) h

theorem Reordered.field?_eq (h : Reordered v w) (key : String) : v.field? key = w.field? key :=
  eq_of_rel_eq (h.rel_field? (fun _ _ => rfl) key)

theorem Shuffled.eq_or_isObject (h : Shuffled change v w) : v = w ∨ v.isObject ∧ w.isObject :=
  h.imp_right fun ⟨hv, hw, _⟩ => ⟨hv, hw⟩

theorem Reordered.fields_perm (h : Reordered v w) : v.fields.Perm w.fields := by
  rcases h with rfl | ⟨_, _, fields, hperm, hfields⟩
  · exact .refl _
  · rwa [← hfields.eq_of_forall fun _ _ _ heq => heq]

/-! ## Items -/

section Items

variable {α : Type} {R : Json → Json → Prop}

theorem map_eq_of_forall₂ {f : Json → α} (hf : ∀ a b, R a b → f a = f b) {as bs : List Json}
    (h : List.Forall₂ R as bs) : as.map f = bs.map f := by
  induction h with
  | nil => rfl
  | cons h _ ih => rw [List.map_cons, List.map_cons, hf _ _ h, ih]

theorem filterMap_eq_of_forall₂ {f : Json → Option α} (hf : ∀ a b, R a b → f a = f b)
    {as bs : List Json} (h : List.Forall₂ R as bs) : as.filterMap f = bs.filterMap f := by
  have hmap := congrArg (List.filterMap id) (map_eq_of_forall₂ hf h)
  simpa [List.filterMap_map] using hmap

theorem EachItem.rel_items? (hrefl : ∀ a, R a a) (h : EachItem R v w) :
    Option.Rel (List.Forall₂ R) v.items? w.items? := by
  rcases h with rfl | ⟨items, others, rfl, rfl, hitems⟩
  · cases v.items? with
    | none => exact .none
    | some items => exact .some (List.forall₂_same.2 fun a _ => hrefl a)
  · exact .some hitems

theorem rel_bind_items? (hrefl : ∀ a, R a a) {x y : Option Json}
    (h : Option.Rel (EachItem R) x y) :
    Option.Rel (List.Forall₂ R) (x.bind items?) (y.bind items?) := by
  cases h with
  | none => exact .none
  | some h => exact h.rel_items? hrefl

theorem forall₂_getD {x y : Option (List Json)} (h : Option.Rel (List.Forall₂ R) x y) :
    List.Forall₂ R (x.getD []) (y.getD []) := by
  cases h with
  | none => exact .nil
  | some h => exact h

end Items

end Json

/-! ## Rearranged parts

What may change in each part of a document: the order of its members, and inside the lists of
objects that it holds the same again. Values that are shown by their text stay as they are.
-/

open Json

def Parameter.Rearranged : Json → Json → Prop := Reordered

def ActionEntry.Rearranged : Json → Json → Prop :=
  Shuffled fun key v w => if key = "parameters" then EachItem Parameter.Rearranged v w else v = w

def ApplyBlock.Rearranged : Json → Json → Prop := Reordered

def Stage.Rearranged : Json → Json → Prop :=
  Shuffled fun key v w =>
    if key = "actions" then EachItem ActionEntry.Rearranged v w
    else if key = "apply_logic" then ApplyBlock.Rearranged v w
    else v = w

def Table.Rearranged : Json → Json → Prop := Reordered

def HeaderField.Rearranged : Json → Json → Prop := Reordered

def ExternObject.Rearranged : Json → Json → Prop := Reordered

namespace Registries

def TablesRearranged : Json → Json → Prop := Shuffled fun _ => Table.Rearranged

/-- The headers keep their order. -/
def HeadersRearranged : Json → Json → Prop := InPlace fun _ => EachItem HeaderField.Rearranged

def ExternsRearranged : Json → Json → Prop := EachItem ExternObject.Rearranged

end Registries

/-! ## Parts decode alike -/

variable {v w : Json}

theorem Json.stringField?_congr {key : String} (h : v.field? key = w.field? key) :
    v.stringField? key = w.stringField? key := by rw [stringField?, h, stringField?]

theorem Json.itemsField?_congr {key : String} (h : v.field? key = w.field? key) :
    v.itemsField? key = w.itemsField? key := by rw [itemsField?, h, itemsField?]

theorem Json.labelsField_congr {key : String} (h : v.field? key = w.field? key) :
    v.labelsField key = w.labelsField key := by rw [labelsField, itemsField?_congr h, labelsField]

theorem Parameter.decode_congr (h : Rearranged v w) : decode v = decode w := by
  rcases h.eq_or_isObject with rfl | ⟨hv, hw⟩
  · rfl
  · rw [decode, if_pos hv, stringField?_congr (h.field?_eq _), stringField?_congr (h.field?_eq _),
      decode, if_pos hw]

namespace ActionEntry

theorem rel_field? (h : Rearranged v w) (key : String) :
    Option.Rel (fun a b => if key = "parameters" then EachItem Parameter.Rearranged a b else a = b)
      (v.field? key) (w.field? key) := by
  refine Shuffled.rel_field? (fun key a => ?_) h key
  split
  · exact .inl rfl
  · rfl

theorem decode_congr (h : Rearranged v w) : decode v = decode w := by
  rcases h.eq_or_isObject with rfl | ⟨hv, hw⟩
  · rfl
  have hname : v.field? "name" = w.field? "name" := eq_of_rel_eq (rel_field? h "name")
  have hpreview : v.field? "body_preview" = w.field? "body_preview" :=
    eq_of_rel_eq (rel_field? h "body_preview")
  have hitems : Option.Rel (List.Forall₂ Parameter.Rearranged) (v.itemsField? "parameters")
      (w.itemsField? "parameters") :=
    rel_bind_items? (fun _ => .inl rfl) (rel_field? h "parameters")
  have hparameters : ((v.itemsField? "parameters").getD []).map Parameter.decode =
      ((w.itemsField? "parameters").getD []).map Parameter.decode :=
    map_eq_of_forall₂ (fun _ _ hitem => Parameter.decode_congr hitem) (forall₂_getD hitems)
  rw [decode, if_pos hv, stringField?_congr hname, stringField?_congr hpreview, hparameters, decode,
    if_pos hw]

end ActionEntry

theorem ApplyBlock.decode_congr (h : Rearranged v w) : decode v = decode w := by
  rw [decode, stringField?_congr (h.field?_eq _), itemsField?_congr (h.field?_eq _), decode]

namespace Stage

theorem rel_field? (h : Rearranged v w) (key : String) :
    Option.Rel (fun a b =>
      if key = "actions" then EachItem ActionEntry.Rearranged a b
      else if key = "apply_logic" then ApplyBlock.Rearranged a b
      else a = b) (v.field? key) (w.field? key) := by
  refine Shuffled.rel_field? (fun key a => ?_) h key
  split
  · exact .inl rfl
  · split
    · exact .inl rfl
    · rfl

theorem applyBlock_congr {x y : Option Json} (h : Option.Rel ApplyBlock.Rearranged x y) :
    (x.filter isObject).map ApplyBlock.decode = (y.filter isObject).map ApplyBlock.decode := by
  cases h with
  | none => rfl
  | some h =>
      rename_i a b
      have hdecode := ApplyBlock.decode_congr h
      rcases h with rfl | ⟨ha, hb, _⟩
      · rfl
      · simp [Option.filter, ha, hb, hdecode]

theorem decode_congr (name : String) (h : Rearranged v w) : decode name v = decode name w := by
  rcases h.eq_or_isObject with rfl | ⟨hv, hw⟩
  · rfl
  have hfield : ∀ key ∈ ["type", "tables", "states", "extracts", "transitions"],
      v.field? key = w.field? key := by
    intro key hkey
    have hrel := rel_field? h key
    simp only [List.mem_cons, List.not_mem_nil, or_false] at hkey
    rcases hkey with rfl | rfl | rfl | rfl | rfl <;> exact eq_of_rel_eq hrel
  have hkind : decodeKind v = decodeKind w := by
    rw [decodeKind, stringField?_congr (hfield "type" (by simp)), decodeKind]
  have hitems : Option.Rel (List.Forall₂ ActionEntry.Rearranged) (v.itemsField? "actions")
      (w.itemsField? "actions") :=
    rel_bind_items? (fun _ => .inl rfl) (rel_field? h "actions")
  have hactions : (v.itemsField? "actions").map (List.map ActionEntry.decode) =
      (w.itemsField? "actions").map (List.map ActionEntry.decode) :=
    map_eq_of_rel (fun _ _ => map_eq_of_forall₂ fun _ _ hitem => ActionEntry.decode_congr hitem)
      hitems
  rw [decode, if_pos hv, decode, if_pos hw, hkind, labelsField_congr (hfield "tables" (by simp)),
    hactions, itemsField?_congr (hfield "states" (by simp)),
    itemsField?_congr (hfield "extracts" (by simp)),
    itemsField?_congr (hfield "transitions" (by simp)),
    applyBlock_congr (rel_field? h "apply_logic")]

end Stage

theorem Table.decode_congr (h : Rearranged v w) : decode v = decode w := by
  rw [decode, labelsField_congr (h.field?_eq _), labelsField_congr (h.field?_eq _), h.field?_eq,
    decode]

theorem HeaderField.decode?_congr (h : Rearranged v w) : decode? v = decode? w := by
  rcases h.eq_or_isObject with rfl | ⟨hv, hw⟩
  · rfl
  · rw [decode?, if_pos hv, stringField?_congr (h.field?_eq _), h.field?_eq, decode?, if_pos hw]

theorem ExternObject.decode?_congr (h : Rearranged v w) : decode? v = decode? w := by
  rcases h.eq_or_isObject with rfl | ⟨hv, hw⟩
  · rfl
  · rw [decode?, if_pos hv, stringField?_congr (h.field?_eq _), stringField?_congr (h.field?_eq _),
      decode?, if_pos hw]

theorem Header.decode_congr (name : String) (h : EachItem HeaderField.Rearranged v w) :
    decode name v = decode name w := by
  have hitems := forall₂_getD (h.rel_items? fun _ => .inl rfl)
  have hfields : (v.items?.getD []).filterMap HeaderField.decode? =
      (w.items?.getD []).filterMap HeaderField.decode? :=
    filterMap_eq_of_forall₂ (fun _ _ hitem => HeaderField.decode?_congr hitem) hitems
  rw [decode, hfields, decode]

/-! ## Registries decode alike -/

theorem Registry.ofList_eq_of_perm {α : Type} {entries others : List (String × α)}
    (h : entries.Perm others) (hnodup : (entries.map Prod.fst).Nodup) :
    ofList entries = ofList others := by
  have hothers : (others.map Prod.fst).Nodup := (h.map Prod.fst).nodup_iff.1 hnodup
  have hperm : (ofList entries).entries.Perm (ofList others).entries :=
    (perm_entries_ofList hnodup).trans (h.trans (perm_entries_ofList hothers).symm)
  apply eq_of_entries
  apply List.Perm.eq_of_pairwise _ (ofList entries).sorted (ofList others).sorted hperm
  intro a b _ _ hab hba
  exact (String.lt_asymm hab hba).elim

namespace Registries

theorem decodeTables_congr (h : TablesRearranged v w) : decodeTables v = decodeTables w := by
  rcases h with rfl | ⟨_, _, fields, hperm, hfields⟩
  · rfl
  · have hnodup : ((v.fields.map fun field => (field.1, Table.decode field.2)).map
        Prod.fst).Nodup := by
      simpa [Function.comp_def] using v.nodup_keys_fields
    have hmap := hfields.map_eq (f := fun key v => (key, Table.decode v))
      fun key a b hchange => by rw [Table.decode_congr hchange]
    rw [decodeTables, Registry.ofList_eq_of_perm (hperm.map _) hnodup, hmap, decodeTables]

theorem decodeHeaders_congr (h : HeadersRearranged v w) : decodeHeaders v = decodeHeaders w := by
  rcases h with rfl | ⟨_, _, hfields⟩
  · rfl
  · exact hfields.map_eq fun key a b hchange => Header.decode_congr key hchange

theorem decodeExterns_congr (h : ExternsRearranged v w) : decodeExterns v = decodeExterns w :=
  filterMap_eq_of_forall₂ (fun _ _ hitem => ExternObject.decode?_congr hitem)
    (forall₂_getD (h.rel_items? fun _ => .inl rfl))

theorem decode_congr
    (htables : Option.Rel TablesRearranged (v.field? "_tables") (w.field? "_tables"))
    (hheaders : Option.Rel HeadersRearranged (v.field? "_headers") (w.field? "_headers"))
    (hexterns : Option.Rel ExternsRearranged (v.field? "_externs") (w.field? "_externs")) :
    decode v = decode w := by
  rw [decode, map_eq_of_rel (fun _ _ h => decodeTables_congr h) htables,
    map_eq_of_rel (fun _ _ h => decodeHeaders_congr h) hheaders,
    map_eq_of_rel (fun _ _ h => decodeExterns_congr h) hexterns, decode]

def headerFields (v : Json) : List (String × Json) := ((v.field? "_headers").map fields).getD []

theorem headerFields_perm {v w : Json}
    (h : Option.Rel Reordered (v.field? "_headers") (w.field? "_headers")) :
    (headerFields v).Perm (headerFields w) := by
  rw [headerFields, headerFields]
  generalize v.field? "_headers" = x at h
  generalize w.field? "_headers" = y at h
  cases h with
  | none => exact .refl _
  | some h => exact h.fields_perm

theorem headers_decode (v : Json) : (decode v).headers =
    (headerFields v).map fun field => Header.decode field.1 field.2 := by
  rw [decode, headerFields]
  cases v.field? "_headers" <;> rfl

end Registries

/-! ## Documents -/

namespace Program

/-- Whether a member of a document says anything. All do but remarks, whose keys are reserved and
name no registry. -/
def counts (key : String) : Bool :=
  !isReserved key || key ∈ ["_tables", "_headers", "_externs", "_filename"]

/-- What may become of the value of a key of a document. -/
def PartRearranged : Change := fun key v w =>
  if key = "_tables" then Registries.TablesRearranged v w
  else if key = "_headers" then Registries.HeadersRearranged v w
  else if key = "_externs" then Registries.ExternsRearranged v w
  else if key = "_filename" then v = w
  else Stage.Rearranged v w

/-- Documents that agree but for their remarks, the places of the registries among the members, and
the order of the members inside each part. The stages keep their order. -/
def Rearranged (v w : Json) : Prop :=
  ∃ members : List (String × Json),
    (v.fields.filter fun field => counts field.1).Perm members ∧
    (members.filter fun member => !isReserved member.1) = stageFields v ∧
    Along PartRearranged members (w.fields.filter fun field => counts field.1)

/-- One part for each member, named by its key and in the order of the members, in two orders of the
members. -/
structure MoveWith {α : Type} (name : α → String) (members others : List (String × Json))
    (parts otherParts : List α) : Prop where
  members_perm : members.Perm others
  parts_perm : parts.Perm otherParts
  names_eq : parts.map name = members.map Prod.fst
  otherNames_eq : otherParts.map name = others.map Prod.fst
  place : ∀ i j : Nat, members[i]? = others[j]? → parts[i]? = otherParts[j]?

theorem moveWith_map {α : Type} {name : α → String} {members others : List (String × Json)}
    (h : members.Perm others) {f : String × Json → α} (hf : ∀ member, name (f member) = member.1) :
    MoveWith name members others (members.map f) (others.map f) where
  members_perm := h
  parts_perm := h.map f
  names_eq := by
    rw [List.map_map]
    exact List.map_congr_left fun member _ => hf member
  otherNames_eq := by
    rw [List.map_map]
    exact List.map_congr_left fun member _ => hf member
  place := by
    intro i j hplace
    rw [List.getElem?_map, List.getElem?_map, hplace]

theorem stageFields_filter_counts (v : Json) :
    ((v.fields.filter fun field => counts field.1).filter fun field => !isReserved field.1) =
      stageFields v := by
  rw [List.filter_filter, stageFields]
  apply List.filter_congr
  intro field _
  simp only [counts]
  cases isReserved field.1 <;> rfl

theorem stage_rearranged_of_part {key : String} {a b : Json} (hkey : isReserved key = false)
    (h : PartRearranged key a b) : Stage.Rearranged a b := by
  have hall : ∀ reserved ∈ ["_tables", "_headers", "_externs", "_filename"],
      isReserved reserved = true := by decide
  have hne : ∀ reserved ∈ ["_tables", "_headers", "_externs", "_filename"], key ≠ reserved := by
    rintro reserved hreserved rfl
    rw [hall key hreserved] at hkey
    cases hkey
  simpa [PartRearranged, hne] using h

theorem decode_congr {v w : Json} (h : Rearranged v w) : decode v = decode w := by
  obtain ⟨members, hperm, hstages, hmembers⟩ := h
  have hrel : ∀ key, counts key →
      Option.Rel (PartRearranged key) (v.field? key) (w.field? key) := by
    intro key hkey
    have hnodup : ((v.fields.filter fun field => counts field.1).map Prod.fst).Nodup :=
      (List.filter_sublist.map Prod.fst).nodup v.nodup_keys_fields
    rw [field?, field?, ← Keyed.lookup_filter hkey v.fields, ← Keyed.lookup_filter hkey w.fields,
      lookup_eq_of_perm hperm hnodup]
    exact hmembers.rel_lookup key
  have hregistries : Registries.decode v = Registries.decode w :=
    Registries.decode_congr (hrel "_tables" (by decide)) (hrel "_headers" (by decide))
      (hrel "_externs" (by decide))
  have hfilename : v.field? "_filename" = w.field? "_filename" :=
    eq_of_rel_eq (hrel "_filename" (by decide))
  have hfields := hmembers.filter fun key => !isReserved key
  rw [hstages, stageFields_filter_counts] at hfields
  have hdecode := hfields.map_eq (f := Stage.decode) fun key a b hpart =>
    Stage.decode_congr key (stage_rearranged_of_part (by simpa using hpart.1) hpart.2)
  rw [decode, hdecode, hregistries, stringField?_congr hfilename, decode]

/-- Only the members of the registry of headers come in another order. -/
def HeadersReordered : Change := fun key v w => if key = "_headers" then Reordered v w else v = w

/-- What changes if the members of a document, and those of its registry of headers, come in
another order: the stages and the headers move with their members. -/
structure Moved (v w : Json) : Prop where
  stages : MoveWith Stage.name (stageFields v) (stageFields w) (decode v).stages (decode w).stages
  headers : MoveWith Header.name (Registries.headerFields v) (Registries.headerFields w)
    (decode v).registries.headers (decode w).registries.headers
  tables : (decode v).registries.tables = (decode w).registries.tables
  externs : (decode v).registries.externs = (decode w).registries.externs
  filename : (decode v).filename = (decode w).filename

theorem stageFields_perm {v w : Json} (h : Shuffled HeadersReordered v w) :
    (stageFields v).Perm (stageFields w) := by
  rcases h with rfl | ⟨_, _, fields, hperm, hfields⟩
  · exact .refl _
  · have hsame := (hfields.filter fun key => !isReserved key).eq_of_forall fun key a b hpart => by
      have hne : key ≠ "_headers" := by
        rintro rfl
        exact absurd hpart.1 (by decide)
      simpa [HeadersReordered, hne] using hpart.2
    rw [stageFields, stageFields, ← hsame]
    exact hperm.filter _

theorem moved_of_shuffled {v w : Json} (h : Shuffled HeadersReordered v w) : Moved v w := by
  have hrel := h.rel_field? fun key a => by
    unfold HeadersReordered
    split
    · exact .inl rfl
    · rfl
  have hfield : ∀ key ∈ ["_tables", "_externs", "_filename"], v.field? key = w.field? key := by
    intro key hkey
    have hvalue := hrel key
    simp only [List.mem_cons, List.not_mem_nil, or_false] at hkey
    rcases hkey with rfl | rfl | rfl <;> exact eq_of_rel_eq hvalue
  refine ⟨moveWith_map (stageFields_perm h) fun field => Stage.name_decode field.1 field.2,
    ?_, ?_, ?_, ?_⟩
  · rw [decode, decode, Registries.headers_decode, Registries.headers_decode]
    exact moveWith_map (Registries.headerFields_perm (hrel "_headers")) fun _ => rfl
  · rw [decode, decode, Registries.decode, Registries.decode, hfield "_tables" (by simp)]
  · rw [decode, decode, Registries.decode, Registries.decode, hfield "_externs" (by simp)]
  · rw [decode, decode, stringField?_congr (hfield "_filename" (by simp))]

/-- Remarks, the places of the registries and the order inside the parts of a document make no
difference. The order of the stages and of the headers is that of their members, and makes no other
difference. -/
theorem decode_of_rearranged_or_moved (v w : Json) :
    (Rearranged v w → decode w = decode v) ∧ (Shuffled HeadersReordered v w → Moved v w) :=
  ⟨fun h => (decode_congr h).symm, moved_of_shuffled⟩

/-- A document, the same with a part rearranged and a remark added, and the same with its stages and
its headers in another order. -/
theorem decode_of_rearranged_or_moved_mixed :
    let ingress := Json.obj [("type", .str "control"), ("tables", .arr [.str "route"])]
    let start := Json.obj [("type", .str "parser")]
    let tables := Json.obj [("route", .null)]
    let headers := Json.obj [("ipv4", .arr []), ("tcp", .null)]
    let document := Json.obj [("ingress", ingress), ("_tables", tables), ("start", start),
      ("_headers", headers)]
    let rearranged := Json.obj [("_tables", tables),
      ("ingress", .obj [("tables", .arr [.str "route"]), ("type", .str "control")]),
      ("_remark", .str "tidy"), ("start", start), ("_headers", headers)]
    let moved := Json.obj [("start", start), ("ingress", ingress), ("_tables", tables),
      ("_headers", .obj [("tcp", .null), ("ipv4", .arr [])])]
    Rearranged document rearranged ∧ decode rearranged = decode document ∧
      Shuffled HeadersReordered document moved ∧ Moved document moved ∧
      (decode document).stages.map Stage.name = ["ingress", "start"] ∧
      (decode moved).stages.map Stage.name = ["start", "ingress"] ∧
      (decode document).registries.headers.map Header.name = ["ipv4", "tcp"] ∧
      (decode moved).registries.headers.map Header.name = ["tcp", "ipv4"] := by
  intro ingress start tables headers document rearranged moved
  have hingress : Stage.Rearranged ingress
      (.obj [("tables", .arr [.str "route"]), ("type", .str "control")]) :=
    .inr ⟨rfl, rfl, _, .swap _ _ _, .cons ⟨rfl, rfl⟩ (.cons ⟨rfl, rfl⟩ .nil)⟩
  have hrearranged : Rearranged document rearranged := by
    refine ⟨[("_tables", tables), ("ingress", ingress), ("start", start), ("_headers", headers)],
      ?_, by cbv, ?_⟩
    · have hfields : (document.fields.filter fun field => counts field.1) =
          [("ingress", ingress), ("_tables", tables), ("start", start), ("_headers", headers)] := by
        cbv
      rw [hfields]
      exact .swap _ _ _
    · have hfields : (rearranged.fields.filter fun field => counts field.1) =
          [("_tables", tables),
            ("ingress", .obj [("tables", .arr [.str "route"]), ("type", .str "control")]),
            ("start", start), ("_headers", headers)] := by
        cbv
      rw [hfields]
      exact .cons ⟨rfl, .inl rfl⟩ (.cons ⟨rfl, hingress⟩ (.cons ⟨rfl, .inl rfl⟩
        (.cons ⟨rfl, .inl rfl⟩ .nil)))
  have hheaders : Reordered headers (.obj [("tcp", .null), ("ipv4", .arr [])]) :=
    .inr ⟨rfl, rfl, _, .swap _ _ _, .cons ⟨rfl, rfl⟩ (.cons ⟨rfl, rfl⟩ .nil)⟩
  have hmoved : Shuffled HeadersReordered document moved :=
    .inr ⟨rfl, rfl, _, (List.Perm.cons _ (.swap _ _ _)).trans (.swap _ _ _),
      .cons ⟨rfl, rfl⟩ (.cons ⟨rfl, rfl⟩ (.cons ⟨rfl, rfl⟩ (.cons ⟨rfl, hheaders⟩ .nil)))⟩
  have hmoves : Moved document moved := (decode_of_rearranged_or_moved document moved).2 hmoved
  refine ⟨hrearranged, (decode_of_rearranged_or_moved document rearranged).1 hrearranged, hmoved,
    hmoves, ?_, ?_, ?_, ?_⟩
  · rw [hmoves.stages.names_eq]
    decide
  · rw [hmoves.stages.otherNames_eq]
    decide
  · rw [hmoves.headers.names_eq]
    decide
  · rw [hmoves.headers.otherNames_eq]
    decide

end Program

end StageAtlas
