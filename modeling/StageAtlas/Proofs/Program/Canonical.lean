import StageAtlas.Proofs.Program.Parts

/-! # The canonical form of programs

Whatever the document looked like, the decoded program is canonical: names differ, no stage has a
reserved one, and every kind is the one that its own label names. The document of a canonical
program decodes to the program, so a second decoding repairs nothing that the first one left.
-/

namespace StageAtlas

open Json

/-! ## Registries -/

namespace Registries

theorem nodup_keys_tables (registries : Registries) :
    ((registries.tables.entries.map fun entry => (entry.1, entry.2.encode)).map
      Prod.fst).Nodup := by
  simpa [Function.comp_def] using registries.tables.nodup_names

theorem decodeTables_encode (registries : Registries) :
    decodeTables (obj (registries.tables.entries.map fun entry => (entry.1, entry.2.encode))) =
      registries.tables := by
  rw [decodeTables, fields_obj_of_nodup registries.nodup_keys_tables]
  simp [Function.comp_def, Table.decode_encode, Registry.ofList_entries]

theorem nodup_keys_headers {registries : Registries}
    (h : (registries.headers.map Header.name).Nodup) :
    ((registries.headers.map fun header => (header.name, header.encode)).map Prod.fst).Nodup := by
  simpa [Function.comp_def] using h

theorem decodeHeaders_encode {registries : Registries}
    (h : (registries.headers.map Header.name).Nodup) :
    decodeHeaders (obj (registries.headers.map fun header => (header.name, header.encode))) =
      registries.headers := by
  rw [decodeHeaders, fields_obj_of_nodup (nodup_keys_headers h)]
  simp [Function.comp_def, Header.decode_encode]

theorem decodeExterns_encode (registries : Registries) :
    decodeExterns (arr (registries.externs.map ExternObject.encode)) = registries.externs := by
  simp [decodeExterns, items?, filterMap_decode?_map_encode ExternObject.decode?_encode]

end Registries

/-! ## Whole programs -/

namespace Program

/-- What decoding establishes, whatever the document is. -/
structure Canonical (program : Program) : Prop where
  kinds : ∀ stage ∈ program.stages, StageKind.ofLabel stage.kind.label = stage.kind
  names : (program.stages.map Stage.name).Nodup
  unreserved : ∀ stage ∈ program.stages, isReserved stage.name = false
  headers : (program.registries.headers.map Header.name).Nodup

theorem ofLabel_label_decodeKind (v : Json) :
    StageKind.ofLabel (Stage.decodeKind v).label = Stage.decodeKind v := by
  unfold Stage.decodeKind
  split
  · exact StageKind.ofLabel_label_ofLabel _
  · exact StageKind.ofLabel_label_familiar .unknown (by simp)

theorem ofLabel_label_kind_decode (name : String) (v : Json) :
    StageKind.ofLabel (Stage.decode name v).kind.label = (Stage.decode name v).kind := by
  unfold Stage.decode
  split
  · exact ofLabel_label_decodeKind v
  · exact StageKind.ofLabel_label_familiar .unknown (by simp)

theorem nodup_names_decodeHeaders (v : Json) :
    ((Registries.decodeHeaders v).map Header.name).Nodup := by
  have hnames : (Registries.decodeHeaders v).map Header.name = v.fields.map Prod.fst := by
    simp [Registries.decodeHeaders, Header.decode, Function.comp_def]
  rw [hnames]
  exact v.nodup_keys_fields

theorem canonical_decode (v : Json) : (decode v).Canonical where
  kinds := by
    intro stage hstage
    obtain ⟨field, _, rfl⟩ := List.mem_map.1 hstage
    exact ofLabel_label_kind_decode field.1 field.2
  names := nodup_names_decode v
  unreserved := by
    intro stage hstage
    obtain ⟨field, hfield, rfl⟩ := List.mem_map.1 hstage
    simpa using (List.mem_filter.1 hfield).2
  headers := by
    cases h : v.field? "_headers" with
    | none => simp [decode, Registries.decode, h]
    | some headers => simpa [decode, Registries.decode, h] using nodup_names_decodeHeaders headers

variable {program : Program}

def reservedMembers (program : Program) : List (String × Json) :=
  program.registries.encode ++ optionalMember "_filename" (program.filename.map str)

theorem encode_eq (program : Program) :
    program.encode = obj ((program.stages.map fun stage => (stage.name, stage.encode)) ++
      program.reservedMembers) := by
  rw [encode, reservedMembers, List.append_assoc]

theorem keys_reservedMembers_sublist (program : Program) :
    (program.reservedMembers.map Prod.fst).Sublist
      ["_tables", "_headers", "_externs", "_filename"] := by
  cases hname : program.filename <;>
    simp [reservedMembers, Registries.encode, optionalMember, hname]

theorem isReserved_of_mem_reservedMembers {member : String × Json}
    (h : member ∈ program.reservedMembers) : isReserved member.1 = true := by
  have hall : ∀ key ∈ ["_tables", "_headers", "_externs", "_filename"], isReserved key = true := by
    decide
  exact hall _ (program.keys_reservedMembers_sublist.subset (List.mem_map_of_mem h))

theorem nodup_keys_reservedMembers (program : Program) :
    (program.reservedMembers.map Prod.fst).Nodup :=
  program.keys_reservedMembers_sublist.nodup (by decide)

theorem nodup_keys_encode (h : program.Canonical) :
    (((program.stages.map fun stage => (stage.name, stage.encode)) ++
      program.reservedMembers).map Prod.fst).Nodup := by
  rw [List.map_append, List.nodup_append]
  refine ⟨by simpa [Function.comp_def] using h.names, program.nodup_keys_reservedMembers, ?_⟩
  intro name hname key hkey heq
  obtain ⟨member, hmember, rfl⟩ := List.mem_map.1 hkey
  obtain ⟨stage, hstage, rfl⟩ : ∃ stage ∈ program.stages, stage.name = name := by
    simpa using hname
  have hreserved := isReserved_of_mem_reservedMembers hmember
  rw [← heq, h.unreserved stage hstage] at hreserved
  cases hreserved

theorem stageFields_encode (h : program.Canonical) :
    stageFields program.encode = program.stages.map fun stage => (stage.name, stage.encode) := by
  rw [stageFields, encode_eq, fields_obj_of_nodup (nodup_keys_encode h), List.filter_append]
  have hstages : (program.stages.map fun stage => (stage.name, stage.encode)).filter
      (fun field => !isReserved field.1) =
        program.stages.map fun stage => (stage.name, stage.encode) := by
    rw [List.filter_eq_self]
    intro field hfield
    obtain ⟨stage, hstage, rfl⟩ := List.mem_map.1 hfield
    simp [h.unreserved stage hstage]
  have hreserved : program.reservedMembers.filter (fun field => !isReserved field.1) = [] := by
    rw [List.filter_eq_nil_iff]
    intro field hfield
    simp [isReserved_of_mem_reservedMembers hfield]
  rw [hstages, hreserved, List.append_nil]

theorem field?_encode_of_isReserved (h : program.Canonical) {key : String}
    (hkey : isReserved key = true) :
    program.encode.field? key = program.reservedMembers.lookup key := by
  have hstages :
      (program.stages.map fun stage => (stage.name, stage.encode)).lookup key = none := by
    rw [List.lookup_eq_none_iff]
    intro field hfield
    obtain ⟨stage, hstage, rfl⟩ := List.mem_map.1 hfield
    rw [bne_iff_ne]
    rintro rfl
    rw [h.unreserved stage hstage] at hkey
    cases hkey
  rw [encode_eq, field?_obj_of_nodup (nodup_keys_encode h), List.lookup_append, hstages,
    Option.none_or]

theorem registries_decode_encode (h : program.Canonical) :
    Registries.decode program.encode = program.registries := by
  have htables := field?_encode_of_isReserved h (show isReserved "_tables" = true by decide)
  have hheaders := field?_encode_of_isReserved h (show isReserved "_headers" = true by decide)
  have hexterns := field?_encode_of_isReserved h (show isReserved "_externs" = true by decide)
  simp [Registries.decode, htables, hheaders, hexterns, reservedMembers, Registries.encode,
    lookup_cons_eq_ite, Registries.decodeTables_encode, Registries.decodeExterns_encode,
    Registries.decodeHeaders_encode h.headers]

theorem filename_decode_encode (h : program.Canonical) :
    program.encode.stringField? "_filename" = program.filename := by
  have hfilename := field?_encode_of_isReserved h (show isReserved "_filename" = true by decide)
  simp [stringField?, hfilename, reservedMembers, Registries.encode, lookup_cons_eq_ite,
    lookup_optionalMember]

theorem decode_encode (h : program.Canonical) : decode program.encode = program := by
  have hstage : ∀ stage ∈ program.stages, Stage.decode stage.name stage.encode = id stage :=
    fun stage hmem => Stage.decode_encode (h.kinds stage hmem)
  have hstages : (stageFields program.encode).map (fun field => Stage.decode field.1 field.2) =
      program.stages := by
    rw [stageFields_encode h, List.map_map]
    exact (List.map_congr_left hstage).trans (List.map_id _)
  rw [decode, hstages, registries_decode_encode h, filename_decode_encode h]

/-- Decoding finds a fixed point of writing and decoding, however malformed the value was. -/
theorem decode_encode_decode (v : Json) :
    decode (decode v).encode = decode v ∧
      ((decode v).stages.map Stage.name).Nodup ∧
      (∀ stage ∈ (decode v).stages, stage.name.toList.head? ≠ some '_') ∧
      ((decode v).registries.headers.map Header.name).Nodup := by
  have hcanonical := canonical_decode v
  refine ⟨decode_encode hcanonical, hcanonical.names, ?_, hcanonical.headers⟩
  intro stage hstage
  simpa [isReserved] using hcanonical.unreserved stage hstage

end Program

end StageAtlas
