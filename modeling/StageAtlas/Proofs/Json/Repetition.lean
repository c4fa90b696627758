import Mathlib.Data.List.Induction
import StageAtlas.Json.Writer
import StageAtlas.Proofs.Json.RoundTrip

/-! # Repeated keys

A member counts if no later one has its key, and its place is that of the first one that has. What
is read off a value is therefore read off the value in which every key is kept once, and any text
has another one in which it is.
-/

namespace StageAtlas

namespace Keyed

variable {κ α β : Type} [DecidableEq κ]

def last? (members : List (κ × α)) (key : κ) : Option α := members.reverse.lookup key

theorem collapse_concat (members : List (κ × α)) (member : κ × α) :
    collapse (members ++ [member]) = put (collapse members) member.1 member.2 := by
  rw [collapse, List.foldl_append, List.foldl_cons, List.foldl_nil, collapse]

theorem last?_concat (members : List (κ × α)) (member : κ × α) (key : κ) :
    last? (members ++ [member]) key =
      if key = member.1 then some member.2 else last? members key := by
  rw [last?, List.reverse_append, List.reverse_singleton, List.singleton_append, List.lookup_cons,
    last?]
  split <;> simp_all

theorem keys_collapse (members : List (κ × α)) :
    (collapse members).map Prod.fst = (members.map Prod.fst).eraseDups := by
  induction members using List.reverseRecOn with
  | nil => rfl
  | append_singleton members member ih =>
      rw [collapse_concat, keys_put, ih, List.map_append, List.map_singleton, List.eraseDups_append]
      by_cases h : member.1 ∈ members.map Prod.fst
      · simp [h, List.removeAll]
      · simp [h, List.removeAll, List.eraseDups_cons]

theorem lookup_collapse (members : List (κ × α)) (key : κ) :
    (collapse members).lookup key = last? members key := by
  induction members using List.reverseRecOn with
  | nil => rfl
  | append_singleton members member ih => rw [collapse_concat, lookup_put, ih, last?_concat]

theorem last?_of_mem_collapse {members : List (κ × α)} {field : κ × α}
    (h : field ∈ collapse members) : last? members field.1 = some field.2 := by
  rw [← lookup_collapse, lookup_eq_some_iff_of_nodup (nodup_keys_collapse members)]
  exact h

theorem mem_put {fields : List (κ × α)} {key : κ} {value : α} {field : κ × α}
    (h : field ∈ put fields key value) : field = (key, value) ∨ field ∈ fields := by
  induction fields with
  | nil => simpa [put] using h
  | cons head rest ih =>
      obtain ⟨k, v⟩ := head
      simp only [put] at h
      split at h
      · rename_i heq
        rcases List.mem_cons.1 h with rfl | h
        · exact .inl (by rw [heq])
        · exact .inr (List.mem_cons_of_mem _ h)
      · rcases List.mem_cons.1 h with rfl | h
        · exact .inr List.mem_cons_self
        · exact (ih h).imp_right (List.mem_cons_of_mem _)

theorem mem_of_mem_collapse {members : List (κ × α)} {field : κ × α}
    (h : field ∈ collapse members) : field ∈ members := by
  induction members using List.reverseRecOn with
  | nil => cases h
  | append_singleton members member ih =>
      rw [collapse_concat] at h
      rcases mem_put h with rfl | h
      · simp
      · exact List.mem_append_left _ (ih h)

theorem put_map (f : α → β) (fields : List (κ × α)) (key : κ) (value : α) :
    put (fields.map fun field => (field.1, f field.2)) key (f value) =
      (put fields key value).map fun field => (field.1, f field.2) := by
  induction fields with
  | nil => rfl
  | cons field rest ih =>
      obtain ⟨k, v⟩ := field
      simp only [put, List.map_cons]
      split
      · rfl
      · rw [ih, List.map_cons]

theorem collapse_map (f : α → β) (members : List (κ × α)) :
    collapse (members.map fun member => (member.1, f member.2)) =
      (collapse members).map fun field => (field.1, f field.2) := by
  induction members using List.reverseRecOn with
  | nil => rfl
  | append_singleton members member ih =>
      rw [List.map_append, List.map_singleton, collapse_concat, ih, put_map, collapse_concat]

theorem collapse_collapse (members : List (κ × α)) :
    collapse (collapse members) = collapse members :=
  collapse_of_nodup (nodup_keys_collapse members)

end Keyed

namespace Json

/-! ## Values with each key once -/

/-- The same value with each key kept once, in every object at every depth: at the place of its
first member and with what becomes of the value of its last. -/
inductive Once : Json → Json → Prop
  | null : Once .null .null
  | bool (b : Bool) : Once (.bool b) (.bool b)
  | num (n : Numeral) : Once (.num n) (.num n)
  | str (s : String) : Once (.str s) (.str s)
  | arr {items others : List Json} (length : items.length = others.length)
      (h : ∀ (i : Nat) item other, items[i]? = some item → others[i]? = some other →
        Once item other) : Once (.arr items) (.arr others)
  | obj {members fields : List (String × Json)} {last : String → Json}
      (keys : fields.map Prod.fst = (members.map Prod.fst).eraseDups)
      (values : ∀ field ∈ fields, Keyed.last? members field.1 = some (last field.1))
      (h : ∀ field ∈ fields, Once (last field.1) field.2) : Once (.obj members) (.obj fields)

/-- What holds of an array if it holds of the items, and of an object if it holds of the values of
the members, holds of every value. -/
@[elab_as_elim]
theorem induction {P : Json → Prop} (null : P .null) (bool : ∀ b, P (.bool b))
    (num : ∀ n, P (.num n)) (str : ∀ s, P (.str s))
    (arr : ∀ items, (∀ item ∈ items, P item) → P (.arr items))
    (obj : ∀ members, (∀ member ∈ members, P member.2) → P (.obj members)) : ∀ v, P v
  | .null => null
  | .bool b => bool b
  | .num n => num n
  | .str s => str s
  | .arr items => arr items fun item _ => induction null bool num str arr obj item
  | .obj members => obj members fun member _ => induction null bool num str arr obj member.2
termination_by v => sizeOf v
decreasing_by
  · have hlt := List.sizeOf_lt_of_mem ‹_›
    simp only [Json.arr.sizeOf_spec]
    omega
  · rename_i hmem
    have hlt := List.sizeOf_lt_of_mem hmem
    have hpair : sizeOf member = 1 + sizeOf member.1 + sizeOf member.2 := by
      cases member
      rfl
    simp only [Json.obj.sizeOf_spec]
    omega

theorem normalize_arr (items : List Json) : (arr items).normalize = arr (items.map normalize) := by
  rw [normalize, normalizeItems_eq_map]

theorem normalize_obj (members : List (String × Json)) : (obj members).normalize =
    obj ((Keyed.collapse members).map fun field => (field.1, field.2.normalize)) := by
  rw [normalize, normalizeMembers_eq_map, Keyed.collapse_map]

theorem once_normalize (v : Json) : Once v v.normalize := by
  induction v using Json.induction with
  | null => rw [normalize]; exact .null
  | bool b => rw [normalize]; exact .bool b
  | num n => rw [normalize]; exact .num n
  | str s => rw [normalize]; exact .str s
  | arr items ih =>
      rw [normalize_arr]
      refine .arr (by rw [List.length_map]) fun i item other hitem hother => ?_
      rw [List.getElem?_map, hitem, Option.map_some, Option.some.injEq] at hother
      rw [← hother]
      exact ih item (List.mem_of_getElem? hitem)
  | obj members ih =>
      rw [normalize_obj]
      refine @Once.obj members _ (fun key => (Keyed.last? members key).getD null) ?_ ?_ ?_
      · rw [← Keyed.keys_collapse, List.map_map]
        rfl
      · intro field hfield
        obtain ⟨member, hmember, rfl⟩ := List.mem_map.1 hfield
        rw [Keyed.last?_of_mem_collapse hmember, Option.getD_some]
      · intro field hfield
        obtain ⟨member, hmember, rfl⟩ := List.mem_map.1 hfield
        rw [Keyed.last?_of_mem_collapse hmember, Option.getD_some]
        exact ih member (Keyed.mem_of_mem_collapse hmember)

/-- Keeping each key once leaves just one value. -/
theorem once_iff {v w : Json} : Once v w ↔ w = v.normalize := by
  refine ⟨fun h => ?_, fun h => h ▸ once_normalize v⟩
  induction h with
  | null => rw [normalize]
  | bool b => rw [normalize]
  | num n => rw [normalize]
  | str s => rw [normalize]
  | @arr items others length _ ih =>
      rw [normalize_arr]
      refine congrArg arr (List.ext_getElem (by rw [← length, List.length_map]) fun i hi hi' => ?_)
      rw [List.getElem_map]
      exact ih i _ _ (List.getElem?_eq_getElem _) (List.getElem?_eq_getElem _)
  | @obj members fields last keys values _ ih =>
      -- The keys are settled, and each key settles its value.
      let field (key : String) := (key, ((Keyed.last? members key).getD null).normalize)
      have hfields : fields.map (fun entry => field entry.1) = fields := by
        refine (List.map_congr_left fun entry hentry => ?_).trans (List.map_id fields)
        simp only [field, values entry hentry, Option.getD_some, ← ih entry hentry, id_eq]
      have hcollapse : (Keyed.collapse members).map (fun entry => field entry.1) =
          (Keyed.collapse members).map fun entry => (entry.1, entry.2.normalize) := by
        refine List.map_congr_left fun entry hentry => ?_
        simp only [field, Keyed.last?_of_mem_collapse hentry, Option.getD_some]
      rw [normalize_obj, ← hcollapse, ← hfields]
      have hkeys := congrArg (List.map field) (keys.trans (Keyed.keys_collapse members).symm)
      rw [List.map_map, List.map_map] at hkeys
      exact congrArg obj hkeys

/-! ## What normal values show -/

theorem normalize_normalize (v : Json) : v.normalize.normalize = v.normalize := by
  induction v using Json.induction with
  | null => rw [normalize, normalize]
  | bool b => rw [normalize, normalize]
  | num n => rw [normalize, normalize]
  | str s => rw [normalize, normalize]
  | arr items ih =>
      rw [normalize_arr, normalize_arr, List.map_map]
      exact congrArg arr (List.map_congr_left ih)
  | obj members ih =>
      rw [normalize_obj, normalize_obj, Keyed.collapse_map, Keyed.collapse_collapse, List.map_map]
      refine congrArg obj (List.map_congr_left fun field hfield => ?_)
      exact congrArg (field.1, ·) (ih field (Keyed.mem_of_mem_collapse hfield))

theorem isObject_normalize (v : Json) : v.normalize.isObject = v.isObject := by
  cases v <;> rw [normalize] <;> rfl

theorem string?_normalize (v : Json) : v.normalize.string? = v.string? := by
  cases v <;> rw [normalize] <;> rfl

theorem natural?_normalize (v : Json) : v.normalize.natural? = v.natural? := by
  cases v <;> rw [normalize] <;> rfl

theorem items?_normalize (v : Json) : v.normalize.items? = v.items?.map (List.map normalize) := by
  cases v with
  | arr items => rw [normalize_arr]; rfl
  | _ => rw [normalize]; rfl

theorem fields_normalize (v : Json) :
    v.normalize.fields = v.fields.map fun field => (field.1, field.2.normalize) := by
  cases v with
  | obj members =>
      rw [normalize_obj, fields_obj, fields_obj, Keyed.collapse_map, Keyed.collapse_collapse]
  | _ => rw [normalize]; rfl

theorem field?_normalize (v : Json) (key : String) :
    v.normalize.field? key = (v.field? key).map normalize := by
  rw [field?, fields_normalize, Keyed.lookup_map, field?]

theorem label_normalize (v : Json) : v.normalize.label = v.label := by
  rw [label, label, text, text, string?_normalize, normalize_normalize]

/-! ## Texts with each key once -/

namespace Grammar

section Lists

variable {α : Type} {L : Language α}

theorem exists_separated (a : α) {as : List α} (h : ∀ b ∈ a :: as, ∃ t, L t b) :
    ∃ t, Separated (Padded L) t (a :: as) := by
  induction as generalizing a with
  | nil =>
      obtain ⟨t, ht⟩ := h a List.mem_cons_self
      exact ⟨_, .one (.mk blank_nil ht blank_nil)⟩
  | cons b as ih =>
      obtain ⟨t, ht⟩ := h a List.mem_cons_self
      obtain ⟨ts, hts⟩ := ih b fun c hc => h c (List.mem_cons_of_mem a hc)
      exact ⟨_, .cons (.mk blank_nil ht blank_nil) hts⟩

theorem exists_listed {as : List α} (h : ∀ a ∈ as, ∃ t, L t a) : ∃ t, Listed L t as := by
  cases as with
  | nil => exact ⟨[], .empty blank_nil⟩
  | cons a as =>
      obtain ⟨t, ht⟩ := exists_separated a h
      exact ⟨t, .filled ht⟩

theorem Separated.exists_of_mem {t : List Char} {as : List α} (h : Separated (Padded L) t as) :
    ∀ a ∈ as, ∃ u, L u a := by
  induction h with
  | one h =>
      obtain ⟨_, h, _⟩ := h
      intro a ha
      rw [List.mem_singleton.1 ha]
      exact ⟨_, h⟩
  | cons h _ ih =>
      obtain ⟨_, h, _⟩ := h
      intro a ha
      rcases List.mem_cons.1 ha with rfl | ha
      · exact ⟨_, h⟩
      · exact ih a ha

theorem Listed.exists_of_mem {t : List Char} {as : List α} (h : Listed L t as) :
    ∀ a ∈ as, ∃ u, L u a := by
  cases h with
  | empty _ => nofun
  | filled h => exact h.exists_of_mem

end Lists

theorem Scalar.normalize_eq {t : List Char} {v : Json} (h : Scalar t v) : v.normalize = v := by
  cases h <;> rw [normalize]

theorem Value.exists_normalize {depth : Nat} {t : List Char} {v : Json} (h : Value depth t v) :
    ∃ u, Value depth u v.normalize := by
  induction depth generalizing t v with
  | zero => exact ⟨t, by rw [Scalar.normalize_eq h]; exact h⟩
  | succ depth ih =>
      rcases h with h | h
      · exact ⟨t, .inl (by rw [h.normalize_eq]; exact h)⟩
      · cases h with
        | @arr t items h =>
            have hitems : ∀ item ∈ items.map normalize, ∃ u, Value depth u item := by
              intro item hitem
              obtain ⟨original, hmem, rfl⟩ := List.mem_map.1 hitem
              obtain ⟨u, hu⟩ := h.exists_of_mem original hmem
              exact ih hu
            obtain ⟨u, hu⟩ := exists_listed hitems
            rw [normalize_arr]
            exact ⟨_, .inr (.arr hu)⟩
        | @obj t members h =>
            -- Each field that is left comes from a member, whose key can be written as it was.
            have hfields : ∀ field ∈ (Keyed.collapse members).map fun field =>
                (field.1, field.2.normalize), ∃ u, Member (Value depth) u field := by
              intro field hfield
              obtain ⟨member, hmem, rfl⟩ := List.mem_map.1 hfield
              obtain ⟨_, hkey, _, _, hvalue⟩ :=
                h.exists_of_mem member (Keyed.mem_of_mem_collapse hmem)
              obtain ⟨u, hu⟩ := ih hvalue
              exact ⟨_, .mk hkey blank_nil blank_nil hu⟩
            obtain ⟨u, hu⟩ := exists_listed hfields
            rw [normalize_obj]
            exact ⟨_, .inr (.obj hu)⟩

end Grammar

/-- For any text there is one that says the same with each key once. -/
theorem Denotes.exists_normalize {text : String} {v : Json} (h : Denotes text v) :
    ∃ other, Denotes other v.normalize := by
  rw [Denotes] at h
  generalize text.toList = cs at h
  obtain ⟨_, h, _⟩ := h
  obtain ⟨u, hu⟩ := Grammar.Value.exists_normalize h
  refine ⟨String.ofList u, ?_⟩
  have hpadded := Grammar.Padded.mk Grammar.blank_nil hu Grammar.blank_nil
  simpa [Denotes] using hpadded

end Json

end StageAtlas
