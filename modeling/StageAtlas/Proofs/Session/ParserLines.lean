import StageAtlas.Proofs.Session.Counts
import StageAtlas.Proofs.Session.Locality

/-! # The lines of a parser

What a parser extracts and where it goes are sequences of their own beside its states. They may be
missing, shorter or longer, and hold anything: each state is told with what stands at its own place,
and nothing that stands elsewhere has a part in its line.
-/

namespace StageAtlas

namespace Json

/-- What stands at a place of the array in a field, if there is an array that reaches so far. -/
def itemAt? (v : Json) (key : String) (index : Nat) : Option Json :=
  match v.field? key with
  | some (.arr items) => items[index]?
  | _ => none

def stringAt? (v : Json) (key : String) (index : Nat) : Option String :=
  match v.itemAt? key index with
  | some (.str s) => some s
  | _ => none

/-- The line that the entry of a parser gives for a state at a place. -/
def parserLine (entry : Json) (index : Nat) (state : Json) : ParserStep :=
  ⟨match state with
    | .str s => s
    | other => other.text,
    entry.stringAt? "extracts" index,
    (entry.stringAt? "transitions" index).filter fun destination =>
      destination ≠ "select" ∧ destination ≠ "accept"⟩

/-- Two entries have the same at a place of both sequences. -/
def SameAt (entry other : Json) (index : Nat) : Prop :=
  entry.itemAt? "extracts" index = other.itemAt? "extracts" index ∧
    entry.itemAt? "transitions" index = other.itemAt? "transitions" index

theorem aligned_itemsField? (entry : Json) (key : String) (index : Nat) :
    ParserState.aligned (entry.itemsField? key) index = entry.stringAt? key index := by
  unfold ParserState.aligned itemsField? stringAt? itemAt?
  cases entry.field? key with
  | none => rfl
  | some value =>
      cases value with
      | arr items =>
          simp only [Option.bind_some, items?]
          cases items[index]? with
          | none => rfl
          | some item => cases item <;> rfl
      | _ => rfl

theorem parserLine_congr {entry other : Json} {index : Nat} (h : entry.SameAt other index)
    (state : Json) : entry.parserLine index state = other.parserLine index state := by
  obtain ⟨hextract, htransition⟩ := h
  unfold parserLine stringAt?
  rw [hextract, htransition]

theorem ofState_eq_parserLine (entry : Json) (index : Nat) (state : Json) :
    ParserStep.ofState ⟨state.label, entry.stringAt? "extracts" index,
      entry.stringAt? "transitions" index⟩ = entry.parserLine index state := by
  have hkeyword : ∀ destination : String, (!ParserStep.isKeyword destination) =
      decide (destination ≠ "select" ∧ destination ≠ "accept") := by
    intro destination
    simp [ParserStep.isKeyword, Bool.beq_eq_decide_eq]
  unfold ParserStep.ofState parserLine
  simp only [hkeyword]
  cases state <;> rfl

end Json

namespace Stage

theorem parserSteps_decode (name : String) {entry : Json} {states : List Json}
    (hkind : decodeKind entry = .parser) (hstates : entry.field? "states" = some (.arr states)) :
    (decode name entry).parserSteps = states.mapIdx entry.parserLine := by
  have hitems : entry.itemsField? "states" = some states := by
    rw [Json.itemsField?, hstates]
    rfl
  rw [decode_eq, parserSteps]
  simp only [hkind, stateList, hitems, Option.map_some, Option.getD_some]
  apply List.ext_getElem?
  intro index
  rw [ParserState.decodeAll, List.getElem?_map, List.getElem?_mapIdx, List.getElem?_mapIdx,
    Option.map_map, Json.aligned_itemsField?, Json.aligned_itemsField?]
  exact congrArg (fun line => states[index]?.map line)
    (funext (Json.ofState_eq_parserLine entry index))

end Stage

namespace Session

/-- A stage of a document that is a parser, with its entry and its states. -/
structure ParserAt (v : Json) (name : String) (entry : Json) (states : List Json) : Prop where
  notReserved : name.toList.head? ≠ some '_'
  field : v.field? name = some entry
  kind : Stage.decodeKind entry = .parser
  states : entry.field? "states" = some (.arr states)

variable {v w entry other : Json} {name : String} {states : List Json}

theorem ParserAt.detail? (h : ParserAt v name entry states) (session : Session)
    (actions : List ExplorerAction) :
    ((session.explore (Program.decode v) actions).visit ⟨name⟩ .deepDive).detail? =
      some (.deepDive ((Stage.decode name entry).deepDive (Registries.decode v))) :=
  detail?_visit_of_field? session actions h.notReserved h.field .deepDive

theorem ParserAt.kind_decode (h : ParserAt v name entry states) :
    (Stage.decode name entry).kind = .parser := by
  rw [Stage.decode_eq]
  exact h.kind

theorem ParserAt.length_stateList (h : ParserAt v name entry states) :
    (Stage.decode name entry).stateList.length = states.length := by
  have hlength := congrArg List.length (Stage.parserSteps_decode name h.kind h.states)
  rwa [Stage.parserSteps, h.kind_decode, List.length_map, List.length_mapIdx] at hlength

/-- Of two parsers with the same states all that is told is the same, but for the lines. -/
theorem ParserAt.deepDive_eq (h : ParserAt v name entry states)
    (hother : ParserAt w name other states)
    (hheaders : v.field? "_headers" = w.field? "_headers")
    (hexterns : v.field? "_externs" = w.field? "_externs") :
    { (Stage.decode name entry).deepDive (Registries.decode v) with
        parserSteps := (Stage.decode name other).parserSteps } =
      (Stage.decode name other).deepDive (Registries.decode w) := by
  have hexplanation :
      (Stage.decode name entry).explanation = (Stage.decode name other).explanation := by
    simp only [Stage.explanation, h.kind_decode, hother.kind_decode, h.length_stateList,
      hother.length_stateList, Stage.name_decode]
  have hbody : (Stage.decode name entry).applyBody = (Stage.decode name other).applyBody := by
    rw [Stage.applyBody, Stage.applyBody, h.kind_decode, hother.kind_decode]
  simp only [Stage.deepDive, Stage.name_decode, h.kind_decode, hother.kind_decode, hexplanation,
    hbody, Registries.headers_decode_congr hheaders, Registries.externs_decode_congr hexterns]

/-- A parser shows one line for each of its states, made of the state and of what stands at its
place in the two sequences. So a change at one place is seen in the line of that place alone, and
one behind the states is not seen at all. -/
theorem parser_lines_aligned (h : ParserAt v name entry states) (session : Session)
    (actions : List ExplorerAction) :
    ∃ dive,
      ((session.explore (Program.decode v) actions).visit ⟨name⟩ .deepDive).detail? =
        some (.deepDive dive) ∧
      dive.parserSteps = states.mapIdx entry.parserLine ∧
      ∀ w other, ParserAt w name other states → ∀ (second : Session) (after : List ExplorerAction),
        ∃ view,
          ((second.explore (Program.decode w) after).visit ⟨name⟩ .deepDive).detail? =
            some (.deepDive view) ∧
          (∀ index, entry.SameAt other index →
            dive.parserSteps[index]? = view.parserSteps[index]?) ∧
          ((∀ index < states.length, entry.SameAt other index) →
            dive.parserSteps = view.parserSteps) ∧
          (v.field? "_headers" = w.field? "_headers" → v.field? "_externs" = w.field? "_externs" →
            { dive with parserSteps := view.parserSteps } = view) := by
  have hsteps : ∀ {v entry}, ParserAt v name entry states →
      ((Stage.decode name entry).deepDive (Registries.decode v)).parserSteps =
        states.mapIdx entry.parserLine := fun h =>
    Stage.parserSteps_decode name h.kind h.states
  refine ⟨_, h.detail? session actions, hsteps h, fun w other hother second after => ?_⟩
  refine ⟨_, hother.detail? second after, fun index hsame => ?_, fun hsame => ?_,
    h.deepDive_eq hother⟩
  · rw [hsteps h, hsteps hother, List.getElem?_mapIdx, List.getElem?_mapIdx]
    exact congrArg (fun line => states[index]?.map line) (funext (Json.parserLine_congr hsame))
  · rw [hsteps h, hsteps hother]
    apply List.ext_getElem
    · rw [List.length_mapIdx, List.length_mapIdx]
    · intro index hindex _
      rw [List.length_mapIdx] at hindex
      rw [List.getElem_mapIdx, List.getElem_mapIdx]
      exact Json.parserLine_congr (hsame index hindex) _

/-- One entry lacks an extract and ends too early, the other has a hole and goes on too long; they
agree about the second state. -/
theorem parser_lines_aligned_ragged :
    let states : List Json := [.str "start", .null, .str "parse_ip"]
    let entry : Json := .obj [("type", .str "parser"), ("states", .arr states),
      ("extracts", .arr [.null, .str "ethernet"]),
      ("transitions", .arr [.str "select", .str "parse_ip", .str "accept"])]
    let other : Json := .obj [("transitions", .arr [.str "parse_ip", .str "parse_ip", .null,
      .str "gone"]), ("extracts", .arr [.str "meta", .str "ethernet"]), ("type", .str " Parser"),
      ("states", .arr states)]
    let v : Json := .obj [("parse", entry)]
    let w : Json := .obj [("_tables", .null), ("parse", other)]
    (ParserAt v "parse" entry states ∧ ParserAt w "parse" other states) ∧
      ∃ dive view,
        ((fresh.explore (Program.decode v) []).visit ⟨"parse"⟩ .deepDive).detail? =
          some (.deepDive dive) ∧
        ((fresh.explore (Program.decode w) []).visit ⟨"parse"⟩ .deepDive).detail? =
          some (.deepDive view) ∧
        dive.parserSteps = [⟨"start", none, none⟩, ⟨"null", some "ethernet", some "parse_ip"⟩,
          ⟨"parse_ip", none, none⟩] ∧
        dive.parserSteps[1]? = view.parserSteps[1]? ∧
        { dive with parserSteps := view.parserSteps } = view := by
  intro states entry other v w
  have hv : ParserAt v "parse" entry states := ⟨by decide, rfl, by decide, rfl⟩
  have hw : ParserAt w "parse" other states := ⟨by decide, rfl, by decide, rfl⟩
  obtain ⟨dive, hdive, hlines, hothers⟩ := parser_lines_aligned hv fresh []
  obtain ⟨view, hview, hline, _, hrest⟩ := hothers w other hw fresh []
  refine ⟨⟨hv, hw⟩, dive, view, hdive, hview, ?_, hline 1 ⟨rfl, rfl⟩, hrest rfl rfl⟩
  rw [hlines]
  decide

end Session

end StageAtlas
