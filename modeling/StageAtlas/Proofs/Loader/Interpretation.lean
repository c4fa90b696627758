import Mathlib.Data.List.Basic
import StageAtlas.Loader.Document
import StageAtlas.Proofs.Json.RoundTrip
import StageAtlas.Proofs.Program.Entries

/-! # What a text is read as

One envelope is taken off a text that is JSON, and what is left decides: an object or null is a
program, whatever is in it, and anything else is no document. The faults of the text come from the
reader alone, so a text has one exactly if the grammar does not derive it.
-/

namespace StageAtlas

theorem Json.string?_eq_some_iff {v : Json} {s : String} : v.string? = some s ↔ v = .str s := by
  cases v <;> simp [string?]

namespace Document

/-! ## Envelopes -/

/-- The fields of an envelope are a file name and a structure, in either order. -/
def IsEnvelope (v content : Json) (filename : String) : Prop :=
  v.fields = [("filename", .str filename), ("structure", content)] ∨
    v.fields = [("structure", content), ("filename", .str filename)]

/-- The structure of a document and the name on its envelope. What is in an envelope is not opened
again. -/
inductive Body (v : Json) : Json → Option String → Prop
  | wrapped {content : Json} {filename : String} (h : IsEnvelope v content filename) :
      Body v content (some filename)
  | bare (h : ∀ content filename, ¬IsEnvelope v content filename) : Body v v none

theorem isEnvelope_iff_mem {v content : Json} {filename : String} :
    IsEnvelope v content filename ↔ v.fields.length = 2 ∧ ("structure", content) ∈ v.fields ∧
      ("filename", .str filename) ∈ v.fields := by
  constructor
  · rintro (h | h) <;> simp [h]
  · rintro ⟨hlength, hstructure, hname⟩
    obtain ⟨first, second, hfields⟩ := List.length_eq_two.1 hlength
    rw [hfields, List.mem_pair] at hstructure hname
    rw [IsEnvelope, hfields]
    rcases hstructure with rfl | rfl
    · rcases hname with hsame | rfl
      · exact absurd (Prod.mk.inj hsame).1 (by decide)
      · exact .inr rfl
    · rcases hname with rfl | hsame
      · exact .inl rfl
      · exact absurd (Prod.mk.inj hsame).1 (by decide)

theorem envelope?_eq_some_iff {v content : Json} {filename : String} :
    envelope? v = some (content, filename) ↔ IsEnvelope v content filename := by
  have hfield : ∀ key w, v.field? key = some w ↔ (key, w) ∈ v.fields :=
    lookup_eq_some_iff_of_nodup v.nodup_keys_fields
  have hname : v.stringField? "filename" = some filename ↔
      ("filename", .str filename) ∈ v.fields := by
    simp [Json.stringField?, Option.bind_eq_some_iff, Json.string?_eq_some_iff, hfield]
  rw [isEnvelope_iff_mem, ← hfield, ← hname, envelope?]
  split
  · rename_i hlength
    split
    · rename_i hcontent hfilename
      simp [hlength, hcontent, hfilename]
    · rename_i hnone
      constructor
      · nofun
      · rintro ⟨_, hcontent, hfilename⟩
        exact (hnone content filename hcontent hfilename).elim
  · rename_i hlength
    simp [hlength]

theorem body_spec (v : Json) : Body v (body v).1 (body v).2 := by
  unfold body
  split
  · rename_i heq
    exact .wrapped (envelope?_eq_some_iff.1 heq)
  · rename_i heq
    refine .bare fun content filename h => ?_
    rw [envelope?_eq_some_iff.2 h] at heq
    cases heq

theorem Body.eq_body {v content : Json} {filename : Option String} (h : Body v content filename) :
    body v = (content, filename) := by
  cases h with
  | wrapped h => rw [body, envelope?_eq_some_iff.2 h]
  | bare h =>
      have hnone : envelope? v = none :=
        Option.eq_none_iff_forall_ne_some.2 fun found hfound =>
          h found.1 found.2 (envelope?_eq_some_iff.1 hfound)
      rw [body, hnone]

/-! ## Documents -/

theorem isStructure_iff {v : Json} : isStructure v = true ↔ v = .null ∨ v.isObject = true := by
  cases v <;> simp [isStructure, Json.isObject, Json.fields?]

theorem parse_eq_interpret {text : String} {v : Json} (h : Json.Denotes text v)
    (fallback : Option String) : parse text fallback = interpret v fallback := by
  rw [parse, Json.read_eq_ok_iff.2 h]

theorem parse_eq_json_iff {text : String} {fallback : Option String} :
    (∃ fault, parse text fallback = .error (.json fault)) ↔ ¬∃ v, Json.Denotes text v := by
  rw [← Json.exists_read_eq_error_iff, parse]
  cases Json.read text with
  | error fault => simp
  | ok v =>
      simp only [interpret]
      split <;> simp

/-- Exactly the texts that are not JSON have a fault. Any other text has a body, which is a program
if it is an object or null, whatever is in it, and no document otherwise. -/
theorem parse_by_body (text : String) (fallback : Option String) :
    ((∃ fault, parse text fallback = .error (.json fault)) ↔ ¬∃ v, Json.Denotes text v) ∧
      ∀ v, Json.Denotes text v →
        (∃ content filename, Body v content filename) ∧
        ∀ content filename, Body v content filename →
          (content = .null ∨ content.isObject = true → parse text fallback =
            .ok { Program.decode content with
              filename := (filename.or ((content.field? "_filename").bind Json.string?)).or
                fallback }) ∧
          (¬(content = .null ∨ content.isObject = true) → parse text fallback =
            .error (.document ("expected a JSON object, found " ++ describe content))) := by
  refine ⟨parse_eq_json_iff, fun v hv => ⟨⟨_, _, body_spec v⟩, fun content filename hbody => ?_⟩⟩
  have hinterpret := parse_eq_interpret hv fallback
  rw [interpret, hbody.eq_body] at hinterpret
  constructor
  · intro hcontent
    rw [← isStructure_iff] at hcontent
    simpa [hcontent, Program.decode, Json.stringField?] using hinterpret
  · intro hcontent
    rw [← isStructure_iff] at hcontent
    simpa [hcontent] using hinterpret

/-- What is in an envelope is a structure, though it could be an envelope itself. -/
theorem parse_by_body_nested :
    let content := Json.obj [("filename", .str "in"), ("structure", .arr [])]
    let envelope := Json.obj [("structure", content), ("filename", .str "out")]
    Json.Denotes envelope.text envelope ∧ IsEnvelope content (.arr []) "in" ∧
      parse envelope.text none = .ok { Program.decode content with filename := some "out" } ∧
      (Program.decode content).stages.map Stage.name = ["filename", "structure"] := by
  intro content envelope
  have hcontent : Json.Plain 126 content :=
    .obj (by decide) (by simp [Json.Plain.str, Json.Plain.arr])
  have hdenotes : Json.Denotes envelope.text envelope :=
    Json.denotes_text (.obj (by decide) (by simp [Json.Plain.str, hcontent]))
  obtain ⟨_, hparse⟩ := (parse_by_body envelope.text none).2 _ hdenotes
  exact ⟨hdenotes, .inl rfl, (hparse content _ (.wrapped (.inr rfl))).1 (.inr rfl), rfl⟩

end Document

end StageAtlas
