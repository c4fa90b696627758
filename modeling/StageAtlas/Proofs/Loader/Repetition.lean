import StageAtlas.Proofs.Json.Repetition
import StageAtlas.Proofs.Loader.Interpretation

/-! # Documents with repeated keys

A document is read as the one in which each key stands once, at its first place and with its last
value. Decoding asks a value for its fields, its items and its text, and all of these are those of
its normal form.
-/

namespace StageAtlas

open Json

/-! ## Fields of normal values -/

namespace Json

theorem stringField?_normalize (v : Json) (key : String) :
    v.normalize.stringField? key = v.stringField? key := by
  rw [stringField?, field?_normalize, stringField?]
  cases v.field? key with
  | none => rfl
  | some w => exact w.string?_normalize

theorem itemsField?_normalize (v : Json) (key : String) :
    v.normalize.itemsField? key = (v.itemsField? key).map (List.map normalize) := by
  rw [itemsField?, field?_normalize, itemsField?]
  cases v.field? key with
  | none => rfl
  | some w => exact w.items?_normalize

theorem getD_map_normalize (items : Option (List Json)) :
    (items.map (List.map normalize)).getD [] = (items.getD []).map normalize := by
  cases items <;> rfl

section Items

variable {α : Type}

theorem map_normalize_eq {f : Json → α} (hf : ∀ v, f v.normalize = f v) (items : List Json) :
    (items.map normalize).map f = items.map f := by
  have hcomp : f ∘ normalize = f := funext hf
  rw [List.map_map, hcomp]

theorem filterMap_normalize_eq {f : Json → Option α} (hf : ∀ v, f v.normalize = f v)
    (items : List Json) : (items.map normalize).filterMap f = items.filterMap f := by
  have hcomp : f ∘ normalize = f := funext hf
  rw [List.filterMap_map, hcomp]

theorem map_fields_normalize {f : String → Json → α} (hf : ∀ key v, f key v.normalize = f key v)
    (v : Json) : (v.normalize.fields.map fun field => f field.1 field.2) =
      v.fields.map fun field => f field.1 field.2 := by
  rw [fields_normalize, List.map_map]
  exact List.map_congr_left fun field _ => hf field.1 field.2

theorem map_itemsField?_normalize {f : List Json → α}
    (hf : ∀ items, f (items.map normalize) = f items) (v : Json) (key : String) :
    (v.normalize.itemsField? key).map f = (v.itemsField? key).map f := by
  rw [itemsField?_normalize, Option.map_map]
  exact congrArg (Option.map · _) (funext hf)

end Items

theorem labelsField_normalize (v : Json) (key : String) :
    v.normalize.labelsField key = v.labelsField key := by
  rw [labelsField, itemsField?_normalize, getD_map_normalize, map_normalize_eq label_normalize,
    labelsField]

end Json

/-! ## Parts of a program -/

theorem Parameter.decode_normalize (v : Json) : decode v.normalize = decode v := by
  rw [decode, isObject_normalize, stringField?_normalize, stringField?_normalize, label_normalize,
    decode]

theorem ActionEntry.decode_normalize (v : Json) : decode v.normalize = decode v := by
  rw [decode, isObject_normalize, stringField?_normalize, stringField?_normalize,
    itemsField?_normalize, getD_map_normalize, map_normalize_eq Parameter.decode_normalize,
    label_normalize, decode]

namespace ParserState

theorem aligned_normalize (items : Option (List Json)) (index : Nat) :
    aligned (items.map (List.map normalize)) index = aligned items index := by
  cases items with
  | none => rfl
  | some items =>
      simp only [aligned, Option.map_some, Option.bind_some, List.getElem?_map]
      cases items[index]? with
      | none => rfl
      | some item => exact item.string?_normalize

theorem decodeAll_normalize (states : List Json) (extracts transitions : Option (List Json)) :
    decodeAll (states.map normalize) (extracts.map (List.map normalize))
      (transitions.map (List.map normalize)) = decodeAll states extracts transitions := by
  apply List.ext_getElem?
  intro index
  simp only [decodeAll, List.getElem?_mapIdx, List.getElem?_map, Option.map_map, aligned_normalize]
  cases states[index]? with
  | none => rfl
  | some state => simp [label_normalize]

end ParserState

theorem ApplyBlock.decode_normalize (v : Json) : decode v.normalize = decode v := by
  rw [decode, stringField?_normalize, map_itemsField?_normalize (map_normalize_eq label_normalize),
    decode]

namespace Stage

theorem decodeKind_normalize (v : Json) : decodeKind v.normalize = decodeKind v := by
  rw [decodeKind, stringField?_normalize, decodeKind]

theorem applyBlock_normalize (block : Option Json) :
    ((block.map normalize).filter isObject).map ApplyBlock.decode =
      (block.filter isObject).map ApplyBlock.decode := by
  cases block with
  | none => rfl
  | some block =>
      simp only [Option.map_some, Option.filter_some, isObject_normalize]
      split
      · exact congrArg some (ApplyBlock.decode_normalize block)
      · rfl

theorem decode_normalize (name : String) (v : Json) : decode name v.normalize = decode name v := by
  have hstates : ((v.normalize.itemsField? "states").map fun items =>
      ParserState.decodeAll items (v.normalize.itemsField? "extracts")
        (v.normalize.itemsField? "transitions")) =
      (v.itemsField? "states").map fun items =>
        ParserState.decodeAll items (v.itemsField? "extracts") (v.itemsField? "transitions") := by
    rw [itemsField?_normalize, itemsField?_normalize, itemsField?_normalize, Option.map_map]
    exact congrArg (Option.map · _) (funext fun items => ParserState.decodeAll_normalize items _ _)
  rw [decode, isObject_normalize, decodeKind_normalize, labelsField_normalize,
    map_itemsField?_normalize (map_normalize_eq ActionEntry.decode_normalize), hstates,
    field?_normalize, applyBlock_normalize, decode]

end Stage

theorem Table.decode_normalize (v : Json) : decode v.normalize = decode v := by
  have hsize :
      ((v.field? "size").map normalize).bind natural? = (v.field? "size").bind natural? := by
    cases v.field? "size" with
    | none => rfl
    | some size => exact size.natural?_normalize
  rw [decode, labelsField_normalize, labelsField_normalize, field?_normalize, hsize, decode]

theorem HeaderField.decode?_normalize (v : Json) : decode? v.normalize = decode? v := by
  have hbits : decodeBits ((v.field? "bits").map normalize) = decodeBits (v.field? "bits") := by
    cases v.field? "bits" with
    | none => rfl
    | some bits => simp only [decodeBits, Option.map_some, Option.bind_some, natural?_normalize]
  rw [decode?, isObject_normalize, stringField?_normalize, field?_normalize, hbits, decode?]

theorem ExternObject.decode?_normalize (v : Json) : decode? v.normalize = decode? v := by
  rw [decode?, isObject_normalize, stringField?_normalize, stringField?_normalize, decode?]

theorem Header.decode_normalize (name : String) (v : Json) :
    decode name v.normalize = decode name v := by
  rw [decode, items?_normalize, getD_map_normalize,
    filterMap_normalize_eq HeaderField.decode?_normalize, decode]

namespace Registries

theorem decodeTables_normalize (v : Json) : decodeTables v.normalize = decodeTables v := by
  have hentries := map_fields_normalize (f := fun key w => (key, Table.decode w))
    (fun key w => congrArg (key, ·) (Table.decode_normalize w)) v
  rw [decodeTables, hentries, decodeTables]

theorem decodeHeaders_normalize (v : Json) : decodeHeaders v.normalize = decodeHeaders v :=
  map_fields_normalize Header.decode_normalize v

theorem decodeExterns_normalize (v : Json) : decodeExterns v.normalize = decodeExterns v := by
  rw [decodeExterns, items?_normalize, getD_map_normalize,
    filterMap_normalize_eq ExternObject.decode?_normalize, decodeExterns]

theorem decode_normalize (v : Json) : decode v.normalize = decode v := by
  have hpart : ∀ {α : Type} {f : Json → α}, (∀ w, f w.normalize = f w) → ∀ x : Option Json,
      (x.map normalize).map f = x.map f := by
    intro α f hf x
    rw [Option.map_map]
    exact congrArg (Option.map · x) (funext hf)
  rw [decode, field?_normalize, field?_normalize, field?_normalize, hpart decodeTables_normalize,
    hpart decodeHeaders_normalize, hpart decodeExterns_normalize, decode]

end Registries

namespace Program

theorem stageFields_normalize (v : Json) :
    stageFields v.normalize = (stageFields v).map fun field => (field.1, field.2.normalize) := by
  rw [stageFields, fields_normalize, List.filter_map, stageFields]
  rfl

theorem decode_normalize (v : Json) : decode v.normalize = decode v := by
  have hstages : ((stageFields v.normalize).map fun field => Stage.decode field.1 field.2) =
      (stageFields v).map fun field => Stage.decode field.1 field.2 := by
    rw [stageFields_normalize, List.map_map]
    exact List.map_congr_left fun field _ => Stage.decode_normalize field.1 field.2
  rw [decode, hstages, Registries.decode_normalize, stringField?_normalize, decode]

end Program

/-! ## Documents -/

namespace Document

theorem envelope?_normalize (v : Json) : envelope? v.normalize =
    (envelope? v).map fun found => (found.1.normalize, found.2) := by
  rw [envelope?, fields_normalize, List.length_map, field?_normalize, stringField?_normalize,
    envelope?]
  split
  · cases v.field? "structure" <;> cases v.stringField? "filename" <;> rfl
  · rfl

theorem describe_normalize (v : Json) : describe v.normalize = describe v := by
  cases v <;> rw [Json.normalize] <;> rfl

theorem isStructure_normalize (v : Json) : isStructure v.normalize = isStructure v := by
  cases v <;> rw [Json.normalize] <;> rfl

theorem body_normalize (v : Json) : body v.normalize = ((body v).1.normalize, (body v).2) := by
  rw [body, envelope?_normalize, body]
  cases envelope? v <;> rfl

theorem interpret_normalize (v : Json) (fallback : Option String) :
    interpret v.normalize fallback = interpret v fallback := by
  rw [interpret, body_normalize, interpret]
  simp only [isStructure_normalize, Program.decode_normalize, describe_normalize]

theorem envelope?_obj_iff {members : List (String × Json)} {content : Json} {filename : String} :
    envelope? (.obj members) = some (content, filename) ↔
      (members.map Prod.fst).eraseDups.length = 2 ∧
        Keyed.last? members "structure" = some content ∧
        Keyed.last? members "filename" = some (.str filename) := by
  have hlength : (Json.obj members).fields.length = (members.map Prod.fst).eraseDups.length := by
    rw [fields_obj, ← Keyed.keys_collapse, List.length_map]
  have hfield : ∀ key, (Json.obj members).field? key = Keyed.last? members key :=
    Keyed.lookup_collapse members
  have hname : (Json.obj members).stringField? "filename" = some filename ↔
      Keyed.last? members "filename" = some (.str filename) := by
    simp [stringField?, hfield, Option.bind_eq_some_iff, Json.string?_eq_some_iff]
  rw [← hname, envelope?, hlength, hfield]
  split
  · rename_i htwo
    cases Keyed.last? members "structure" <;>
      cases (Json.obj members).stringField? "filename" <;> simp [htwo]
  · rename_i htwo
    simp [htwo]

end Document

namespace Program

theorem map_name_stages_decode_obj (members : List (String × Json)) :
    (decode (.obj members)).stages.map Stage.name =
      (members.map Prod.fst).eraseDups.filter fun key => !isReserved key := by
  rw [map_name_stages_decode, stageFields, fields_obj, ← Keyed.keys_collapse, List.filter_map]
  rfl

theorem exists_last_of_mem_stages {members : List (String × Json)} {stage : Stage}
    (h : stage ∈ (decode (.obj members)).stages) :
    ∃ value, Keyed.last? members stage.name = some value ∧
      stage = Stage.decode stage.name value := by
  obtain ⟨field, hfield, rfl⟩ := List.mem_map.1 h
  have hlast := Keyed.last?_of_mem_collapse (List.mem_filter.1 hfield).1
  rw [Stage.name_decode]
  exact ⟨field.2, hlast, rfl⟩

/-- What a program has from members some of whose keys are repeated: the stages come in the order in
which their keys come first, and they and the registries are decoded from the last values. -/
structure FollowsLast (members : List (String × Json)) (program : Program) : Prop where
  names_eq : program.stages.map Stage.name =
    (members.map Prod.fst).eraseDups.filter fun key => !isReserved key
  stage_eq : ∀ stage ∈ program.stages, ∃ value, Keyed.last? members stage.name = some value ∧
    stage = Stage.decode stage.name value
  registries_eq : program.registries =
    ⟨((Keyed.last? members "_tables").map Registries.decodeTables).getD .empty,
      ((Keyed.last? members "_headers").map Registries.decodeHeaders).getD [],
      ((Keyed.last? members "_externs").map Registries.decodeExterns).getD []⟩

theorem followsLast_decode (members : List (String × Json)) :
    FollowsLast members (decode (.obj members)) := by
  have hfield : ∀ key, (Json.obj members).field? key = Keyed.last? members key :=
    Keyed.lookup_collapse members
  refine ⟨map_name_stages_decode_obj members, fun stage => exists_last_of_mem_stages, ?_⟩
  rw [← hfield, ← hfield, ← hfield]
  rfl

theorem filename_decode_obj (members : List (String × Json)) :
    (decode (.obj members)).filename = (Keyed.last? members "_filename").bind string? := by
  have hfield : (Json.obj members).field? "_filename" = Keyed.last? members "_filename" :=
    Keyed.lookup_collapse members "_filename"
  rw [← hfield]
  rfl

end Program

namespace Document

theorem body_some_iff {v content : Json} {filename : String} :
    Body v content (some filename) ↔ envelope? v = some (content, filename) := by
  rw [envelope?_eq_some_iff]
  constructor
  · intro h
    cases h with
    | wrapped h => exact h
  · exact .wrapped

/-- A body with repeated keys is read as a program that follows their last values. -/
theorem exists_parse_of_body {text : String} {v : Json} (h : Denotes text v)
    (fallback : Option String) {members : List (String × Json)} {filename : Option String}
    (hbody : Body v (.obj members) filename) :
    ∃ program, parse text fallback = .ok program ∧ program.FollowsLast members ∧
      program.filename =
        (filename.or ((Keyed.last? members "_filename").bind string?)).or fallback := by
  have hparts := Program.followsLast_decode members
  have hname := Program.filename_decode_obj members
  refine ⟨{ Program.decode (.obj members) with
    filename := (filename.or (Program.decode (.obj members)).filename).or fallback }, ?_,
    ⟨hparts.names_eq, hparts.stage_eq, hparts.registries_eq⟩, ?_⟩
  · rw [parse_eq_interpret h, interpret, hbody.eq_body]
    simp [isStructure]
  · rw [hname]

/-- Every text that is JSON has another that says the same with each key once, and any such text is
read as the same document. Whether there is an envelope shows in the distinct keys and their last
values, and what is read follows the last values of the body, wrapped or bare. -/
theorem parse_eq_of_once {text : String} {v : Json} (h : Denotes text v)
    (fallback : Option String) :
    (∃ other w, Once v w ∧ Denotes other w) ∧
      (∀ other w, Once v w → Denotes other w → parse other fallback = parse text fallback) ∧
      (∀ members : List (String × Json),
        (Program.decode (.obj members)).FollowsLast members ∧
          (Program.decode (.obj members)).filename =
            (Keyed.last? members "_filename").bind string? ∧
          ∀ content filename, envelope? (.obj members) = some (content, filename) ↔
            (members.map Prod.fst).eraseDups.length = 2 ∧
              Keyed.last? members "structure" = some content ∧
              Keyed.last? members "filename" = some (.str filename)) ∧
      (∀ members content filename, v = .obj members →
        (Body v content (some filename) ↔ (members.map Prod.fst).eraseDups.length = 2 ∧
          Keyed.last? members "structure" = some content ∧
          Keyed.last? members "filename" = some (.str filename))) ∧
      ∀ members filename, Body v (.obj members) filename → ∃ program,
        parse text fallback = .ok program ∧ program.FollowsLast members ∧
          program.filename =
            (filename.or ((Keyed.last? members "_filename").bind string?)).or fallback := by
  refine ⟨?_, fun other w hw hother => ?_, fun members => ?_, ?_,
    fun members filename hbody => exists_parse_of_body h fallback hbody⟩
  · obtain ⟨other, hother⟩ := h.exists_normalize
    exact ⟨other, v.normalize, once_normalize v, hother⟩
  · rw [parse_eq_interpret hother, once_iff.1 hw, interpret_normalize, parse_eq_interpret h]
  · exact ⟨Program.followsLast_decode members, Program.filename_decode_obj members,
      fun content filename => envelope?_obj_iff⟩
  · rintro members content filename rfl
    rw [body_some_iff, envelope?_obj_iff]

/-- A stage that comes twice, the second time with two types. -/
theorem parse_eq_of_once_nested :
    let document := Json.obj [("egress", .str "none"), ("start", .null),
      ("egress", .obj [("type", .str "parser"), ("type", .str "control")])]
    let text := String.ofList (write document)
    Denotes text document ∧ ∃ other,
      Denotes other (.obj [("egress", .obj [("type", .str "control")]), ("start", .null)]) ∧
        parse other none = parse text none ∧
        (Program.decode document).stages.map Stage.name = ["egress", "start"] ∧
        ∃ program, parse text none = .ok program ∧
          program.stages.map Stage.name = ["egress", "start"] ∧
          .decode "egress" (.obj [("type", .str "parser"), ("type", .str "control")]) ∈
            program.stages := by
  intro document text
  have hstr : ∀ s, Grammar.Value 125 (write (.str s)) (.str s) := fun s => by
    rw [write]
    exact (Grammar.Scalar.str (quoted_writeString s)).value 125
  have hstage : Grammar.Value 126 (write (.obj [("type", .str "parser"), ("type", .str "control")]))
      (.obj [("type", .str "parser"), ("type", .str "control")]) :=
    .inr (nested_write_obj (by simp [hstr]))
  have hvalue : Grammar.Value greatestDepth (write document) document :=
    .inr (nested_write_obj (by
      simp only [List.forall_mem_cons, List.not_mem_nil, false_imp_iff, implies_true, and_true]
      refine ⟨?_, ?_, hstage⟩
      · rw [write]
        exact (Grammar.Scalar.str (quoted_writeString _)).value 126
      · rw [write]
        exact Grammar.Scalar.null.value 126))
  have hdenotes : Denotes text document := by
    have hpadded := Grammar.Padded.mk Grammar.blank_nil hvalue Grammar.blank_nil
    simpa [Denotes, text] using hpadded
  obtain ⟨⟨other, w, hw, hother⟩, hsame, hparts, hwrapped, hparsed⟩ :=
    parse_eq_of_once hdenotes none
  have hnormal : document.normalize =
      .obj [("egress", .obj [("type", .str "control")]), ("start", .null)] := by
    simp [document, Json.normalize, normalizeMembers, Keyed.collapse, Keyed.put]
  have hbare : Body document document none := by
    refine .bare fun content filename henvelope => ?_
    have hwrap := (hwrapped _ content filename rfl).1 (.wrapped henvelope)
    simp [Keyed.last?, List.lookup_cons] at hwrap
  obtain ⟨program, hprogram, hfollows, -⟩ := hparsed _ none hbare
  refine ⟨hdenotes, other, ?_, hsame other w hw hother, ?_, program, hprogram, ?_, ?_⟩
  · rw [← hnormal, ← once_iff.1 hw]
    exact hother
  · rw [(hparts _).1.names_eq]
    decide
  · rw [hfollows.names_eq]
    decide
  · obtain ⟨stage, hstage, hname⟩ : ∃ stage ∈ program.stages, stage.name = "egress" := by
      apply List.mem_map.1
      rw [hfollows.names_eq]
      decide
    obtain ⟨value, hlast, hdecode⟩ := hfollows.stage_eq stage hstage
    rw [hname] at hlast hdecode
    rw [hdecode, ← Option.some.inj hlast] at hstage
    exact hstage

end Document

end StageAtlas
