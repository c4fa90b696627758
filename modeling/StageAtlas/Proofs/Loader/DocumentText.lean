import StageAtlas.Loader.Document
import StageAtlas.Proofs.Json.RoundTrip
import StageAtlas.Proofs.Program.Canonical

/-! # Programs as text

The document of a program is plain, since all its numbers are words and its objects nest six deep at
most. It has the three registries among its members, so it is never taken for an envelope.
-/

namespace StageAtlas

open Json

/-! ## Documents are plain -/

theorem plain_optionalMember {depth : Nat} {key : String} {value : Option Json}
    (h : ∀ v, value = some v → Plain depth v) :
    ∀ member ∈ optionalMember key value, Plain depth member.2 := by
  cases value with
  | none => simp [optionalMember]
  | some v => simpa [optionalMember] using h v rfl

theorem plain_ofStrings (depth : Nat) (texts : List String) :
    Plain (depth + 1) (ofStrings texts) := by
  apply Plain.arr
  intro item hitem
  obtain ⟨text, _, rfl⟩ := List.mem_map.1 hitem
  exact .str text

theorem plain_ofString? (depth : Nat) (text : Option String) : Plain depth (ofString? text) := by
  cases text with
  | none => exact .null
  | some text => exact .str text

theorem plain_map_str {depth : Nat} {text : Option String} {v : Json} (h : text.map str = some v) :
    Plain depth v := by
  obtain ⟨s, _, rfl⟩ := Option.map_eq_some_iff.1 h
  exact .str s

theorem plain_map_encode {α : Type} {depth : Nat} {encode : α → Json} (list : List α)
    (h : ∀ a, Plain depth (encode a)) : Plain (depth + 1) (arr (list.map encode)) := by
  apply Plain.arr
  intro item hitem
  obtain ⟨a, _, rfl⟩ := List.mem_map.1 hitem
  exact h a

theorem plain_pair {depth : Nat} {first second : String} (h : first ≠ second) {a b : Json}
    (ha : Plain depth a) (hb : Plain depth b) :
    Plain (depth + 1) (obj [(first, a), (second, b)]) := by
  apply Plain.obj
  · simp [h]
  · simp [ha, hb]

theorem Parameter.plain_encode (depth : Nat) (parameter : Parameter) :
    Plain (depth + 1) parameter.encode := plain_pair (by decide) (.str _) (.str _)

theorem ExternObject.plain_encode (depth : Nat) (object : ExternObject) :
    Plain (depth + 1) object.encode := plain_pair (by decide) (.str _) (.str _)

theorem HeaderField.plain_encode (depth : Nat) (field : HeaderField) :
    Plain (depth + 1) field.encode :=
  plain_pair (by decide) (.str _) (.word (toNat32_le_wordMax field.bits))

theorem Header.plain_encode (depth : Nat) (header : Header) : Plain (depth + 2) header.encode :=
  plain_map_encode header.fields (HeaderField.plain_encode depth)

theorem Table.plain_encode (depth : Nat) (table : Table) : Plain (depth + 2) table.encode := by
  apply Plain.obj table.nodup_keys_encode
  rw [List.forall_mem_append]
  refine ⟨by simp [plain_ofStrings], plain_optionalMember fun v hv => ?_⟩
  obtain ⟨size, _, rfl⟩ := Option.map_eq_some_iff.1 hv
  exact .word (toNat64_le_wordMax size)

theorem ActionEntry.plain_encode (depth : Nat) (entry : ActionEntry) :
    Plain (depth + 3) entry.encode := by
  cases entry with
  | named name => exact .str name
  | detailed name parameters preview =>
      apply Plain.obj (nodup_keys_detailed name parameters preview)
      rw [List.forall_mem_append]
      refine ⟨?_, plain_optionalMember fun v hv => plain_map_str hv⟩
      simp [Plain.str, plain_map_encode parameters (Parameter.plain_encode depth)]

theorem ApplyBlock.plain_encode (depth : Nat) (block : ApplyBlock) :
    Plain (depth + 2) block.encode := by
  apply Plain.obj block.nodup_keys_encode
  rw [List.forall_mem_append]
  refine ⟨plain_optionalMember fun v hv => plain_map_str hv, plain_optionalMember fun v hv => ?_⟩
  obtain ⟨steps, _, rfl⟩ := Option.map_eq_some_iff.1 hv
  exact plain_ofStrings depth steps

theorem ParserState.plain_encodeAll (depth : Nat) (states : List ParserState) :
    ∀ member ∈ encodeAll states, Plain (depth + 1) member.2 := by
  have hextracts := plain_map_encode states fun s => plain_ofString? depth s.extract
  have htransitions := plain_map_encode states fun s => plain_ofString? depth s.transition
  simp [encodeAll, plain_ofStrings, hextracts, htransitions]

theorem Stage.plain_encode (depth : Nat) (stage : Stage) : Plain (depth + 5) stage.encode := by
  apply Plain.obj stage.nodup_keys_encode
  simp only [List.forall_mem_append]
  refine ⟨⟨⟨?_, plain_optionalMember fun v hv => ?_⟩, ?_⟩, plain_optionalMember fun v hv => ?_⟩
  · simp [Plain.str, plain_ofStrings]
  · obtain ⟨actions, _, rfl⟩ := Option.map_eq_some_iff.1 hv
    exact plain_map_encode actions (ActionEntry.plain_encode depth)
  · cases stage.states with
    | none => simp
    | some states => exact ParserState.plain_encodeAll (depth + 3) states
  · obtain ⟨block, _, rfl⟩ := Option.map_eq_some_iff.1 hv
    exact ApplyBlock.plain_encode (depth + 2) block

theorem Registries.plain_encode (depth : Nat) {registries : Registries}
    (h : (registries.headers.map Header.name).Nodup) :
    ∀ member ∈ registries.encode, Plain (depth + 3) member.2 := by
  have htables : Plain (depth + 3)
      (obj (registries.tables.entries.map fun entry => (entry.1, entry.2.encode))) := by
    apply Plain.obj registries.nodup_keys_tables
    intro member hmember
    obtain ⟨entry, _, rfl⟩ := List.mem_map.1 hmember
    exact entry.2.plain_encode depth
  have hheaders : Plain (depth + 3)
      (obj (registries.headers.map fun header => (header.name, header.encode))) := by
    apply Plain.obj (nodup_keys_headers h)
    intro member hmember
    obtain ⟨header, _, rfl⟩ := List.mem_map.1 hmember
    exact header.plain_encode depth
  have hexterns : Plain (depth + 3) (arr (registries.externs.map ExternObject.encode)) :=
    plain_map_encode registries.externs (ExternObject.plain_encode (depth + 1))
  simp [encode, htables, hheaders, hexterns]

namespace Program

variable {program : Program}

theorem plain_encode (depth : Nat) (h : program.Canonical) : Plain (depth + 6) program.encode := by
  rw [encode_eq]
  apply Plain.obj (nodup_keys_encode h)
  simp only [reservedMembers, List.forall_mem_append]
  refine ⟨?_, Registries.plain_encode (depth + 2) h.headers, plain_optionalMember fun v hv => ?_⟩
  · intro member hmember
    obtain ⟨stage, _, rfl⟩ := List.mem_map.1 hmember
    exact stage.plain_encode depth
  · exact plain_map_str hv

/-! ## Documents are read back -/

/-- Three registries are one member too many for an envelope. -/
theorem envelope?_encode (h : program.Canonical) : Document.envelope? program.encode = none := by
  have hlength : program.encode.fields.length ≠ 2 := by
    rw [encode_eq, fields_obj_of_nodup (nodup_keys_encode h)]
    simp only [reservedMembers, Registries.encode, List.length_append, List.length_cons]
    omega
  rw [Document.envelope?, if_neg hlength]

theorem interpret_encode (h : program.Canonical) (fallback : Option String) :
    Document.interpret program.encode fallback =
      .ok { program with filename := program.filename <|> fallback } := by
  have hbody : Document.body program.encode = (program.encode, none) := by
    rw [Document.body, envelope?_encode h]
  have hstructure : Document.isStructure program.encode = true := rfl
  simp [Document.interpret, hbody, hstructure, decode_encode h]

theorem envelope?_envelope (program : Program) (filename : String) :
    Document.envelope? (program.envelope filename) = some (program.encode, filename) := by
  have hkeys :
      ([("filename", str filename), ("structure", program.encode)].map Prod.fst).Nodup := by
    simp
  have hlength : (program.envelope filename).fields.length = 2 := by
    rw [envelope, fields_obj_of_nodup hkeys]
    rfl
  rw [Document.envelope?, if_pos hlength]
  simp [envelope, stringField?, field?_obj_pair, string?]

theorem interpret_envelope (h : program.Canonical) (filename : String) (fallback : Option String) :
    Document.interpret (program.envelope filename) fallback =
      .ok { program with filename := some filename } := by
  have hbody : Document.body (program.envelope filename) = (program.encode, some filename) := by
    rw [Document.body, envelope?_envelope]
  have hstructure : Document.isStructure program.encode = true := rfl
  simp [Document.interpret, hbody, hstructure, decode_encode h]

theorem plain_envelope (depth : Nat) (h : program.Canonical) (filename : String) :
    Plain (depth + 7) (program.envelope filename) :=
  plain_pair (by decide) (.str filename) (plain_encode depth h)

/-- A decoded program survives being written as text and read again, alone or in an envelope. -/
theorem parse_text_decode (v : Json) (fallback : Option String) (filename : String) :
    Document.parse (decode v).encode.text fallback =
        .ok { decode v with filename := (decode v).filename <|> fallback } ∧
      Document.parse ((decode v).envelope filename).text fallback =
        .ok { decode v with filename := some filename } := by
  have hcanonical := canonical_decode v
  have hbare : Plain greatestDepth (decode v).encode := plain_encode 121 hcanonical
  have hwrapped : Plain greatestDepth ((decode v).envelope filename) :=
    plain_envelope 120 hcanonical filename
  constructor
  · rw [Document.parse, read_text hbare]
    exact interpret_encode hcanonical fallback
  · rw [Document.parse, read_text hwrapped]
    exact interpret_envelope hcanonical filename fallback

end Program

end StageAtlas
