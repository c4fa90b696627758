import StageAtlas.Program.Encode

/-! # Parts of a program in a document

Each part of a program is written as an object whose keys differ, so its fields are looked up among
its members. Every part but a stage decodes back from what was written; a stage does if its label
names its kind.
-/

namespace StageAtlas

open Json

namespace StageKind

theorem ofLabel_label_familiar :
    ∀ kind ∈ [parser, control, deparser, unknown], ofLabel kind.label = kind := by
  decide

theorem ofLabel_cases (label : String) :
    ofLabel label = parser ∨ ofLabel label = control ∨ ofLabel label = deparser ∨
      ofLabel label = unknown ∨ ofLabel label = other label := by
  unfold ofLabel
  dsimp only
  split
  · simp
  · split
    · simp
    · split
      · simp
      · split <;> simp

theorem ofLabel_label_ofLabel (label : String) :
    ofLabel (ofLabel label).label = ofLabel label := by
  rcases ofLabel_cases label with h | h | h | h | h
  · rw [h]
    exact ofLabel_label_familiar _ (by simp)
  · rw [h]
    exact ofLabel_label_familiar _ (by simp)
  · rw [h]
    exact ofLabel_label_familiar _ (by simp)
  · rw [h]
    exact ofLabel_label_familiar _ (by simp)
  · rw [h]
    exact h

end StageKind

/-! ## Members -/

theorem lookup_cons_eq_ite (key sought : String) (value : Json) (rest : List (String × Json)) :
    ((key, value) :: rest).lookup sought =
      if sought = key then some value else rest.lookup sought := by
  by_cases h : sought = key
  · simp [h]
  · have hne : (sought == key) = false := beq_eq_false_iff_ne.2 h
    simp [List.lookup_cons, h, hne]

theorem lookup_optionalMember (key sought : String) (value : Option Json) :
    (optionalMember key value).lookup sought = if sought = key then value else none := by
  cases value with
  | none => simp [optionalMember]
  | some v => simp [optionalMember, lookup_cons_eq_ite]

namespace Json

theorem field?_obj_pair {first second : String} (h : first ≠ second) (a b : Json) (key : String) :
    (obj [(first, a), (second, b)]).field? key =
      if key = first then some a else if key = second then some b else none := by
  have hkeys : ([(first, a), (second, b)].map Prod.fst).Nodup := by simp [h]
  rw [field?_obj_of_nodup hkeys]
  simp [lookup_cons_eq_ite]

theorem toNat64_le_wordMax (n : UInt64) : n.toNat ≤ Numeral.wordMax :=
  Nat.le_sub_one_of_lt n.toNat_lt

theorem toNat32_le_wordMax (n : UInt32) : n.toNat ≤ Numeral.wordMax := by
  have hlt := n.toNat_lt
  simp only [Numeral.wordMax, Nat.pow_eq]
  omega

@[simp] theorem items?_ofStrings (texts : List String) :
    (ofStrings texts).items? = some (texts.map str) := rfl

@[simp] theorem map_label_map_str (texts : List String) : (texts.map str).map label = texts := by
  simp [Function.comp_def]

@[simp] theorem string?_ofString? (text : Option String) : (ofString? text).string? = text := by
  cases text <;> rfl

@[simp] theorem bind_string?_map_str (text : Option String) :
    (text.map str).bind string? = text := by
  cases text <;> rfl

end Json

/-! ## Parts of a program -/

theorem Parameter.decode_encode (parameter : Parameter) : decode parameter.encode = parameter := by
  simp [decode, encode, stringField?, field?_obj_pair, string?]

namespace ActionEntry

theorem nodup_keys_detailed (name : String) (parameters : List Parameter)
    (preview : Option String) :
    (([("name", str name), ("parameters", arr (parameters.map Parameter.encode))] ++
      optionalMember "body_preview" (preview.map str)).map Prod.fst).Nodup := by
  cases preview <;> simp [optionalMember]

theorem field?_encode_detailed (name : String) (parameters : List Parameter)
    (preview : Option String) (key : String) :
    (detailed name parameters preview).encode.field? key =
      if key = "name" then some (str name)
      else if key = "parameters" then some (arr (parameters.map Parameter.encode))
      else if key = "body_preview" then preview.map str else none := by
  rw [encode, field?_obj_of_nodup (nodup_keys_detailed name parameters preview)]
  simp only [List.lookup_append, lookup_cons_eq_ite, lookup_optionalMember, List.lookup_nil]
  grind

theorem decode_encode (entry : ActionEntry) : decode entry.encode = entry := by
  cases entry with
  | named name => rfl
  | detailed name parameters preview =>
      have hobject : (detailed name parameters preview).encode.isObject = true := rfl
      simp [decode, hobject, stringField?, itemsField?, field?_encode_detailed, string?, items?,
        Function.comp_def, Parameter.decode_encode]

end ActionEntry

theorem ParserState.decodeAll_encode (states : List ParserState) :
    decodeAll ((states.map (·.name)).map str)
        (some (states.map fun state => ofString? state.extract))
        (some (states.map fun state => ofString? state.transition)) = states := by
  apply List.ext_getElem
  · simp [decodeAll]
  · intro index _ hindex
    simp [decodeAll, aligned, hindex]

namespace ApplyBlock

theorem nodup_keys_encode (block : ApplyBlock) :
    ((optionalMember "raw_apply_body" (block.body.map str) ++
      optionalMember "logic" (block.logic.map ofStrings)).map Prod.fst).Nodup := by
  cases block.body <;> cases block.logic <;> simp [optionalMember]

theorem field?_encode (block : ApplyBlock) (key : String) :
    block.encode.field? key =
      if key = "raw_apply_body" then block.body.map str
      else if key = "logic" then block.logic.map ofStrings else none := by
  rw [encode, field?_obj_of_nodup block.nodup_keys_encode]
  simp only [List.lookup_append, lookup_optionalMember]
  grind

theorem decode_encode (block : ApplyBlock) : decode block.encode = block := by
  have hlogic : (block.logic.map ofStrings).bind items? = block.logic.map fun steps =>
      steps.map str := by
    cases block.logic <;> rfl
  simp [decode, stringField?, itemsField?, field?_encode, hlogic, Function.comp_def]

end ApplyBlock

namespace Table

theorem nodup_keys_encode (table : Table) :
    (([("keys", ofStrings table.keys), ("actions", ofStrings table.actions)] ++
      optionalMember "size" (table.size.map fun size => ofNat size.toNat)).map Prod.fst).Nodup := by
  cases table.size <;> simp [optionalMember]

theorem field?_encode (table : Table) (key : String) :
    table.encode.field? key =
      if key = "keys" then some (ofStrings table.keys)
      else if key = "actions" then some (ofStrings table.actions)
      else if key = "size" then table.size.map (fun size => ofNat size.toNat) else none := by
  rw [encode, field?_obj_of_nodup table.nodup_keys_encode]
  simp only [List.lookup_append, lookup_cons_eq_ite, lookup_optionalMember, List.lookup_nil]
  grind

theorem decode_encode (table : Table) : decode table.encode = table := by
  have hsize : (table.size.map fun size => ofNat size.toNat).bind natural? =
      table.size.map UInt64.toNat := by
    cases table.size with
    | none => rfl
    | some size => exact Numeral.natural?_ofNat (toNat64_le_wordMax size)
  simp [decode, labelsField, itemsField?, field?_encode, hsize, Function.comp_def]

end Table

theorem filterMap_decode?_map_encode {α : Type} {encode : α → Json} {decode? : Json → Option α}
    (h : ∀ a, decode? (encode a) = some a) (list : List α) :
    (list.map encode).filterMap decode? = list := by
  have hsome : decode? ∘ encode = some := funext h
  rw [List.filterMap_map, hsome, List.filterMap_some]

theorem HeaderField.decode?_encode (field : HeaderField) : decode? field.encode = some field := by
  have hbits : field.bits.toNat < Nat.pow 2 32 := field.bits.toNat_lt
  have hnatural : (ofNat field.bits.toNat).natural? = some field.bits.toNat :=
    Numeral.natural?_ofNat (toNat32_le_wordMax field.bits)
  simp [decode?, encode, decodeBits, stringField?, field?_obj_pair, string?, hnatural, hbits]

theorem Header.decode_encode (header : Header) : decode header.name header.encode = header := by
  simp [decode, encode, items?, filterMap_decode?_map_encode HeaderField.decode?_encode]

theorem ExternObject.decode?_encode (object : ExternObject) :
    decode? object.encode = some object := by
  simp [decode?, encode, stringField?, field?_obj_pair, string?]

/-! ## Stages -/

namespace Stage

theorem nodup_keys_encode (stage : Stage) :
    (([("type", str stage.kind.label), ("tables", ofStrings stage.tables)] ++
      optionalMember "actions" (stage.actions.map fun actions =>
        arr (actions.map ActionEntry.encode)) ++
      (stage.states.map ParserState.encodeAll).getD [] ++
      optionalMember "apply_logic" (stage.applyBlock.map ApplyBlock.encode)).map
        Prod.fst).Nodup := by
  cases stage.actions <;> cases stage.states <;> cases stage.applyBlock <;>
    simp [optionalMember, ParserState.encodeAll]

theorem field?_encode (stage : Stage) (key : String) :
    stage.encode.field? key =
      if key = "type" then some (str stage.kind.label)
      else if key = "tables" then some (ofStrings stage.tables)
      else if key = "actions" then
        stage.actions.map fun actions => arr (actions.map ActionEntry.encode)
      else if key = "apply_logic" then stage.applyBlock.map ApplyBlock.encode
      else stage.states.bind fun states => (ParserState.encodeAll states).lookup key := by
  rw [encode, field?_obj_of_nodup stage.nodup_keys_encode]
  simp only [List.lookup_append, lookup_cons_eq_ite, lookup_optionalMember, List.lookup_nil]
  cases stage.states with
  | none => grind
  | some states =>
      simp only [Option.map_some, Option.getD_some, Option.bind_some, ParserState.encodeAll,
        lookup_cons_eq_ite, List.lookup_nil]
      grind

/-- A stage whose kind its label names is what its entry in the document decodes to. -/
theorem decode_encode {stage : Stage} (h : StageKind.ofLabel stage.kind.label = stage.kind) :
    decode stage.name stage.encode = stage := by
  have hobject : stage.encode.isObject = true := rfl
  have hkind : decodeKind stage.encode = stage.kind := by
    simp [decodeKind, stringField?, field?_encode, string?, h]
  have htables : stage.encode.labelsField "tables" = stage.tables := by
    simp [labelsField, itemsField?, field?_encode, Function.comp_def]
  have hactions : ((stage.encode.itemsField? "actions").map fun items =>
      items.map ActionEntry.decode) = stage.actions := by
    rw [itemsField?, field?_encode]
    cases stage.actions <;> simp [items?, Function.comp_def, ActionEntry.decode_encode]
  have hstates : ((stage.encode.itemsField? "states").map fun items =>
      ParserState.decodeAll items (stage.encode.itemsField? "extracts")
        (stage.encode.itemsField? "transitions")) = stage.states := by
    simp only [itemsField?, field?_encode]
    cases stage.states with
    | none => rfl
    | some states => exact congrArg some (ParserState.decodeAll_encode states)
  have hblock : ((stage.encode.field? "apply_logic").filter isObject).map ApplyBlock.decode =
      stage.applyBlock := by
    rw [field?_encode]
    cases hvalue : stage.applyBlock with
    | none => rfl
    | some block => exact congrArg some block.decode_encode
  rw [decode, if_pos hobject, hkind, htables, hactions, hstates, hblock]

end Stage

end StageAtlas
