import StageAtlas.Proofs.Program.Rearrangement
import StageAtlas.Proofs.Session.ParserLines

/-! # Lists are decoded item by item

Most lists keep every item of their array: what is not taken apart stays as text. The fields of a
header and the externs keep the objects and drop all else. Either way an entry comes from one item,
so arrays can be joined before they are decoded or after. Only a parser state also takes what stands
beside it.
-/

namespace StageAtlas

open Json

/-- The text of an item that is not taken apart: a string as it is, any other value as JSON. -/
def Json.asText : Json → String
  | str s => s
  | item => item.text

theorem Json.label_eq_asText (item : Json) : item.label = item.asText := by
  cases item <;> rfl

theorem Json.isObject_of_itemsField? {v : Json} {key : String} {items : List Json}
    (h : v.itemsField? key = some items) : v.isObject = true := by
  cases hobject : v.isObject with
  | true => rfl
  | false =>
      rw [itemsField?, field?_of_not_isObject hobject] at h
      cases h

def Program.stageValue? (v : Json) (name : String) : Option Json :=
  if isReserved name then none else v.field? name

theorem Program.stage?_decode_of_value {v entry : Json} {name : String}
    (h : stageValue? v name = some entry) :
    (decode v).stage? name = some (Stage.decode name entry) := by
  rw [stageValue?] at h
  rw [stage?_decode]
  split at h
  · cases h
  · rename_i hname
    rw [if_neg hname, h, Option.map_some]

theorem Program.table?_decode_of_value {v value : Json} {name : String}
    (h : Registries.tableValue? v name = some value) :
    (decode v).registries.table? name = some (Table.decode value) := by
  rw [decode, Registries.table?_decode, h, Option.map_some]

/-- Where each entry keeps the key of its member, entries are found as members are. -/
theorem Keyed.find?_map_eq {α : Type} (f : String → Json → α) (name : α → String)
    (h : ∀ key value, name (f key value) = key) (members : List (String × Json)) (key : String) :
    (members.map fun member => f member.1 member.2).find? (fun a => name a = key) =
      (members.lookup key).map (f key) := by
  induction members with
  | nil => rfl
  | cons member rest ih =>
      obtain ⟨k, value⟩ := member
      by_cases hkey : key = k
      · subst hkey
        simp [h]
      · have hne : (key == k) = false := beq_eq_false_iff_ne.2 hkey
        simpa [List.lookup_cons, hne, h, Ne.symm hkey] using ih

def ActionEntry.parameters? : ActionEntry → Option (List Parameter)
  | named _ => none
  | detailed _ parameters _ => some parameters

/-- A list of a program that a document gives as an array. -/
inductive Listing where
  | tables (stage : String)
  | actions (stage : String)
  | parameters (stage : String) (action : Nat)
  | flow (stage : String)
  | tableKeys (table : String)
  | tableActions (table : String)
  | headerFields (header : String)
  | externs

namespace Listing

abbrev Entry : Listing → Type
  | tables _ => String
  | actions _ => ActionEntry
  | parameters _ _ => Parameter
  | flow _ => String
  | tableKeys _ => String
  | tableActions _ => String
  | headerFields _ => HeaderField
  | externs => ExternObject

def items? (v : Json) : Listing → Option (List Json)
  | tables stage => (Program.stageValue? v stage).bind fun entry => entry.itemsField? "tables"
  | actions stage => (Program.stageValue? v stage).bind fun entry => entry.itemsField? "actions"
  | parameters stage action =>
      (Program.stageValue? v stage).bind fun entry =>
        (entry.itemsField? "actions").bind fun items =>
          items[action]?.bind fun item => item.itemsField? "parameters"
  | flow stage =>
      (Program.stageValue? v stage).bind fun entry =>
        (entry.field? "apply_logic").bind fun block => block.itemsField? "logic"
  | tableKeys table => (Registries.tableValue? v table).bind fun value => value.itemsField? "keys"
  | tableActions table =>
      (Registries.tableValue? v table).bind fun value => value.itemsField? "actions"
  | headerFields header => ((Registries.headerFields v).lookup header).bind Json.items?
  | externs => v.itemsField? "_externs"

def entries? (program : Program) : (listing : Listing) → Option (List listing.Entry)
  | tables stage => (program.stage? stage).map (·.tables)
  | actions stage => (program.stage? stage).bind (·.actions)
  | parameters stage action =>
      (program.stage? stage).bind fun stage =>
        stage.actions.bind fun actions => actions[action]?.bind ActionEntry.parameters?
  | flow stage => (program.stage? stage).bind fun stage => stage.applyBlock.bind (·.logic)
  | tableKeys table => (program.registries.table? table).map (·.keys)
  | tableActions table => (program.registries.table? table).map (·.actions)
  | headerFields header =>
      (program.registries.headers.find? fun found => found.name = header).map (·.fields)
  | externs => some program.registries.externs

/-- The entry of an item; nothing if the list drops it. -/
def decode? : (listing : Listing) → Json → Option listing.Entry
  | tables _, item => some item.asText
  | actions _, item => some (ActionEntry.decode item)
  | parameters _ _, item => some (Parameter.decode item)
  | flow _, item => some item.asText
  | tableKeys _, item => some item.asText
  | tableActions _, item => some item.asText
  | headerFields _, item => HeaderField.decode? item
  | externs, item => ExternObject.decode? item

/-- The entry that a text makes. Fields of headers and externs are never made of one. -/
def ofText? : (listing : Listing) → String → Option listing.Entry
  | tables _, text => some text
  | actions _, text => some (.named text)
  | parameters _ _, text => some ⟨"", text⟩
  | flow _, text => some text
  | tableKeys _, text => some text
  | tableActions _, text => some text
  | headerFields _, _ => none
  | externs, _ => none

/-- Whether the list takes objects apart. -/
def structured : Listing → Bool
  | actions _ | parameters _ _ | headerFields _ | externs => true
  | tables _ | flow _ | tableKeys _ | tableActions _ => false

def keepsAll : Listing → Bool
  | headerFields _ | externs => false
  | tables _ | actions _ | parameters _ _ | flow _ | tableKeys _ | tableActions _ => true

/-! ## Items -/

theorem decode?_eq_ofText? {listing : Listing} {item : Json}
    (h : listing.structured = true → item.isObject = false) :
    listing.decode? item = listing.ofText? item.asText := by
  cases listing with
  | tables _ | flow _ | tableKeys _ | tableActions _ => rfl
  | actions _ => simp [decode?, ActionEntry.decode, h rfl, ofText?, label_eq_asText]
  | parameters _ _ => simp [decode?, Parameter.decode, h rfl, ofText?, label_eq_asText]
  | headerFields _ => simp [decode?, HeaderField.decode?, h rfl, ofText?]
  | externs => simp [decode?, ExternObject.decode?, h rfl, ofText?]

theorem isSome_decode? (listing : Listing) (item : Json) :
    (listing.decode? item).isSome = (listing.keepsAll || item.isObject) := by
  cases listing with
  | tables _ | actions _ | parameters _ _ | flow _ | tableKeys _ | tableActions _ => rfl
  | headerFields _ =>
      rw [decode?, HeaderField.decode?]
      split <;> simp_all [keepsAll]
  | externs =>
      rw [decode?, ExternObject.decode?]
      split <;> simp_all [keepsAll]

/-- What entries have to do with the items that they come from. -/
structure Decodes (listing : Listing) (items : List Json) (entries : List listing.Entry) :
    Prop where
  /-- A list that keeps all has one entry for each item, in its place. -/
  kept : listing.keepsAll = true → entries.length = items.length ∧
    ∀ index : Nat, entries[index]? = items[index]?.bind listing.decode?
  /-- Any other list has one entry for each object, in their order. -/
  selected : listing.keepsAll = false →
    entries.map some = (items.filter Json.isObject).map listing.decode?

theorem filterMap_of_isSome {α β : Type} {f : α → Option β} (h : ∀ a, (f a).isSome = true)
    (list : List α) : (list.filterMap f).length = list.length ∧
      ∀ index : Nat, (list.filterMap f)[index]? = list[index]?.bind f := by
  obtain ⟨g, rfl⟩ : ∃ g : α → β, f = fun a => some (g a) :=
    ⟨fun a => (f a).get (h a), funext fun a => (Option.some_get (h a)).symm⟩
  refine ⟨by simp, fun index => ?_⟩
  rw [List.filterMap_eq_map', List.getElem?_map]
  cases list[index]? <;> rfl

theorem map_some_filterMap {α β : Type} {f : α → Option β} {p : α → Bool}
    (h : ∀ a, (f a).isSome = p a) (list : List α) :
    (list.filterMap f).map some = (list.filter p).map f := by
  induction list with
  | nil => rfl
  | cons a rest ih =>
      cases ha : f a with
      | none =>
          have hp : p a = false := by rw [← h, ha]; rfl
          simp [ha, hp, ih]
      | some b =>
          have hp : p a = true := by rw [← h, ha]; rfl
          simp [ha, hp, ih]

theorem decodes_filterMap (listing : Listing) (items : List Json) :
    listing.Decodes items (items.filterMap listing.decode?) where
  kept hkeeps :=
    filterMap_of_isSome (fun item => by rw [isSome_decode?, hkeeps, Bool.true_or]) items
  selected hkeeps :=
    map_some_filterMap (fun item => by rw [isSome_decode?, hkeeps, Bool.false_or]) items

/-! ## Documents -/

theorem find?_headers_decode (v : Json) (name : String) :
    (Registries.decode v).headers.find? (fun header => header.name = name) =
      ((Registries.headerFields v).lookup name).map (Header.decode name) := by
  rw [Registries.headers_decode]
  exact Keyed.find?_map_eq Header.decode Header.name (fun _ _ => rfl) _ name

theorem filterMap_decode?_eq_map {listing : Listing} {f : Json → listing.Entry}
    (h : ∀ item, listing.decode? item = some (f item)) (items : List Json) :
    items.filterMap listing.decode? = items.map f := by
  rw [funext h]
  exact congrFun List.filterMap_eq_map' items

theorem labelsField_eq_map {v : Json} {key : String} {items : List Json}
    (h : v.itemsField? key = some items) : v.labelsField key = items.map asText := by
  rw [labelsField, h, Option.getD_some, funext label_eq_asText]

/-- What a document gives for a list is what the program has of it. -/
theorem entries?_decode {listing : Listing} {v : Json} {items : List Json}
    (h : listing.items? v = some items) :
    listing.entries? (Program.decode v) = some (items.filterMap listing.decode?) := by
  cases listing with
  | tables stage =>
      obtain ⟨entry, hentry, hitems⟩ := Option.bind_eq_some_iff.1 h
      rw [filterMap_decode?_eq_map (fun _ => rfl), entries?,
        Program.stage?_decode_of_value hentry, Option.map_some, Stage.decode_eq,
        labelsField_eq_map hitems]
  | actions stage =>
      obtain ⟨entry, hentry, hitems⟩ := Option.bind_eq_some_iff.1 h
      rw [filterMap_decode?_eq_map (fun _ => rfl), entries?,
        Program.stage?_decode_of_value hentry, Option.bind_some, Stage.decode_eq, hitems,
        Option.map_some]
  | parameters stage action =>
      obtain ⟨entry, hentry, hactions⟩ := Option.bind_eq_some_iff.1 h
      obtain ⟨actions, hactions, hitem⟩ := Option.bind_eq_some_iff.1 hactions
      obtain ⟨item, hitem, hitems⟩ := Option.bind_eq_some_iff.1 hitem
      have hparameters :
          (ActionEntry.decode item).parameters? = some (items.map Parameter.decode) := by
        rw [ActionEntry.decode, if_pos (isObject_of_itemsField? hitems), hitems]
        rfl
      rw [filterMap_decode?_eq_map (fun _ => rfl), entries?,
        Program.stage?_decode_of_value hentry, Option.bind_some, Stage.decode_eq, hactions,
        Option.map_some, Option.bind_some, List.getElem?_map, hitem, Option.map_some,
        Option.bind_some, hparameters]
  | flow stage =>
      obtain ⟨entry, hentry, hitems⟩ := Option.bind_eq_some_iff.1 h
      rw [filterMap_decode?_eq_map (fun _ => rfl), entries?,
        Program.stage?_decode_of_value hentry, Option.bind_some, Stage.logic_decode, hitems,
        Option.map_some, funext label_eq_asText]
  | tableKeys table =>
      obtain ⟨value, hvalue, hitems⟩ := Option.bind_eq_some_iff.1 h
      rw [filterMap_decode?_eq_map (fun _ => rfl), entries?,
        Program.table?_decode_of_value hvalue, Option.map_some, Table.decode,
        labelsField_eq_map hitems]
  | tableActions table =>
      obtain ⟨value, hvalue, hitems⟩ := Option.bind_eq_some_iff.1 h
      rw [filterMap_decode?_eq_map (fun _ => rfl), entries?,
        Program.table?_decode_of_value hvalue, Option.map_some, Table.decode,
        labelsField_eq_map hitems]
  | headerFields header =>
      obtain ⟨value, hvalue, hitems⟩ := Option.bind_eq_some_iff.1 h
      rw [entries?, Program.decode, find?_headers_decode, hvalue, Option.map_some, Option.map_some,
        Header.decode, hitems]
      rfl
  | externs =>
      obtain ⟨value, hvalue, hitems⟩ := Option.bind_eq_some_iff.1 h
      rw [entries?, Program.decode, Registries.decode, hvalue, Option.map_some,
        Registries.decodeExterns, hitems]
      rfl

end Listing

/-- A state is decoded with what stands at its place in the two other arrays. -/
theorem Stage.states_decode (name : String) {entry : Json} {states : List Json}
    (h : entry.itemsField? "states" = some states) :
    (decode name entry).states = some (states.mapIdx fun index state =>
      ⟨state.asText, entry.stringAt? "extracts" index, entry.stringAt? "transitions" index⟩) := by
  simp only [decode_eq, h, Option.map_some, ParserState.decodeAll, aligned_itemsField?,
    label_eq_asText]

namespace Program

/-- Every list of a program comes from its array, item by item: all items or the objects among them
have an entry, in their order, and an item that is not taken apart is kept as text or dropped. So an
array that is joined from two decodes to the two lists joined. A parser state is its item with what
stands at the same place beside it. -/
theorem lists_decode_by_item (v : Json) :
    (∀ (listing : Listing) (items : List Json), listing.items? v = some items →
      ∃ entries, listing.entries? (decode v) = some entries ∧ listing.Decodes items entries ∧
        ∀ before after front back, listing.items? before = some front →
          listing.items? after = some back → items = front ++ back →
          ∃ first second, listing.entries? (decode before) = some first ∧
            listing.entries? (decode after) = some second ∧ entries = first ++ second) ∧
      (∀ (listing : Listing) (item : Json),
        (listing.structured = true → item.isObject = false) →
          listing.decode? item = listing.ofText? item.asText) ∧
      ∀ (stage : String) (entry : Json) (states : List Json), stageValue? v stage = some entry →
        entry.itemsField? "states" = some states →
        ∃ steps, ((decode v).stage? stage).bind (·.states) = some steps ∧
          steps.length = states.length ∧
          ∀ index : Nat, steps[index]? = states[index]?.map fun state =>
            ⟨state.asText, entry.stringAt? "extracts" index,
              entry.stringAt? "transitions" index⟩ := by
  refine ⟨fun listing items hitems => ?_, fun _ _ => Listing.decode?_eq_ofText?,
    fun stage entry states hentry hstates => ?_⟩
  · refine ⟨_, Listing.entries?_decode hitems, listing.decodes_filterMap items, ?_⟩
    rintro before after front back hfront hback rfl
    exact ⟨_, _, Listing.entries?_decode hfront, Listing.entries?_decode hback,
      List.filterMap_append⟩
  · refine ⟨_, ?_, List.length_mapIdx, fun index => List.getElem?_mapIdx⟩
    rw [stage?_decode_of_value hentry, Option.bind_some, Stage.states_decode _ hstates]

/-- Among the actions and the states are items that are not taken apart, and among the fields of a
header some that are dropped; the actions are joined from those of two other documents. -/
theorem lists_decode_by_item_mixed :
    let rule : Json := .obj [("parameters", .arr [.str "port", .null])]
    let states : List Json := [.arr [], .str "start"]
    let fields : List Json := [.str "pad", .obj [("bits", .num (.ofNat 8))], .null]
    let entry : Json := .obj [("actions", .arr [rule, .str "drop", .null]), ("states", .arr states),
      ("extracts", .arr [.null, .str "ethernet", .str "ipv4"])]
    let v : Json := .obj [("_headers", .obj [("frame", .arr fields)]), ("parse", entry)]
    let before : Json := .obj [("parse", .obj [("actions", .arr [rule])])]
    let after : Json := .obj [("parse", .obj [("actions", .arr [.str "drop", .null])])]
    let actions : Listing := .actions "parse"
    let frame : Listing := .headerFields "frame"
    (actions.items? v = some ([rule] ++ [.str "drop", .null]) ∧
        actions.items? before = some [rule] ∧ actions.items? after = some [.str "drop", .null] ∧
        frame.items? v = some fields ∧ stageValue? v "parse" = some entry ∧
        entry.itemsField? "states" = some states) ∧
      (∃ entries first second, actions.entries? (decode v) = some entries ∧
        actions.entries? (decode before) = some first ∧
        actions.entries? (decode after) = some second ∧ entries = first ++ second ∧
        entries.length = 3 ∧ entries[2]? = some (.named "null")) ∧
      (∃ entries, frame.entries? (decode v) = some entries ∧
        entries.map some = [some ⟨"unnamed", 8⟩]) ∧
      actions.decode? .null = some (.named "null") ∧
      ∃ steps, ((decode v).stage? "parse").bind (·.states) = some steps ∧
        steps[0]? = some ⟨"[]", none, none⟩ ∧
        steps[1]? = some ⟨"start", some "ethernet", none⟩ := by
  intro rule states fields entry v before after actions frame
  have hactions : actions.items? v = some ([rule] ++ [.str "drop", .null]) := rfl
  have hbefore : actions.items? before = some [rule] := rfl
  have hafter : actions.items? after = some [.str "drop", .null] := rfl
  have hframe : frame.items? v = some fields := rfl
  have hentry : stageValue? v "parse" = some entry := rfl
  have hstates : entry.itemsField? "states" = some states := rfl
  obtain ⟨hlists, htexts, hsteps⟩ := lists_decode_by_item v
  obtain ⟨entries, hentries, hdecodes, hjoin⟩ := hlists actions _ hactions
  obtain ⟨first, second, hfirst, hsecond, hjoined⟩ := hjoin _ _ _ _ hbefore hafter rfl
  obtain ⟨found, hfound, hselected, _⟩ := hlists frame _ hframe
  obtain ⟨steps, hsome, _, hplaces⟩ := hsteps "parse" entry states hentry hstates
  obtain ⟨hlength, hplace⟩ := hdecodes.kept rfl
  refine ⟨⟨hactions, hbefore, hafter, hframe, hentry, hstates⟩,
    ⟨entries, first, second, hentries, hfirst, hsecond, hjoined, hlength, hplace 2⟩,
    ⟨found, hfound, hselected.selected rfl⟩, htexts actions .null fun _ => rfl, steps, hsome,
    ?_, ?_⟩
  · rw [hplaces]
    rfl
  · rw [hplaces]
    rfl

end Program

end StageAtlas
