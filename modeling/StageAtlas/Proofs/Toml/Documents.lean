import StageAtlas.Proofs.Toml.Numbers
import StageAtlas.Proofs.Toml.Strings

/-! # Reading written documents

A document of lines, each a bare key and a written value, under headers with bare names. Its text is
related to its statements line by line, and the statements build the table that has each key once
with its value, the sections as tables of their own.
-/

namespace StageAtlas.Toml

variable {name t rest : List Char} {v : Toml}

/-! ## Values -/

/-- Texts that are read as a value in front of a line end. -/
def Spells (t : List Char) (v : Toml) : Prop :=
  ∀ (fuel depth : Nat) (rest : List Char),
    readValue fuel depth (t ++ '\n' :: rest) = some (v, '\n' :: rest)

theorem spells_writeNat {n : Nat} (h : n < 2 ^ 63) : Spells (writeNat n) (.integer n) :=
  fun fuel depth rest => readValue_writeNat fuel depth h rest

theorem spells_writeFloat {x : Double} (h : x.isFinite = true) :
    Spells (writeFloat x) (.float x) :=
  fun fuel depth rest => readValue_writeFloat fuel depth h rest

theorem spells_writeBool (b : Bool) : Spells (writeBool b) (.boolean b) := by
  intro fuel depth rest
  cases b with
  | false => unfold readValue; rfl
  | true => unfold readValue; rfl

theorem exists_writeString_cons (s : String) :
    ∃ c cs, writeString s = c :: cs ∧ (c = '"' ∨ c = '\'') := by
  unfold writeString writeStringAs
  cases StringForm.choose s.toList with
  | basic | basicLines => exact ⟨_, _, rfl, .inl rfl⟩
  | literal | literalLines => exact ⟨_, _, rfl, .inr rfl⟩

theorem spells_writeString (s : String) : Spells (writeString s) (.string s) := by
  intro fuel depth rest
  have hread := readString_writeString s rest
  obtain ⟨c, cs, hcons, hmark⟩ := exists_writeString_cons s
  rw [hcons, List.cons_append] at hread ⊢
  unfold readValue
  rw [if_pos hmark, hread]
  rfl

theorem readValue_blank {c : Char} (hc : isBlank c = true) (fuel depth : Nat) (cs : List Char) :
    readValue fuel depth (c :: cs) = none := by
  have hdateTime (hdigit : c.isDigit = false) (hcolon : c ≠ ':') : readDateTime (c :: cs) = none :=
    readDateTime_eq_none [] (by simp) hdigit (by simp) hcolon cs
  obtain rfl | rfl : c = ' ' ∨ c = '\t' := by simpa [isBlank] using hc
  · unfold readValue
    rw [hdateTime (by decide) (by decide)]
    rfl
  · unfold readValue
    rw [hdateTime (by decide) (by decide)]
    rfl

theorem Spells.skipBlanks_append (h : Spells t v) (rest : List Char) :
    skipBlanks (t ++ '\n' :: rest) = t ++ '\n' :: rest := by
  cases t with
  | nil => rfl
  | cons c cs =>
      refine List.dropWhile_cons_of_neg fun hc => ?_
      have hnone := readValue_blank hc 0 0 (cs ++ '\n' :: rest)
      cases (h 0 0 rest).symm.trans hnone

/-! ## Keys -/

/-- Names that need no quotation marks as a key. -/
def Bare (name : List Char) : Prop := name ≠ [] ∧ ∀ c ∈ name, isBare c = true

instance (name : List Char) : Decidable (Bare name) :=
  inferInstanceAs (Decidable (_ ∧ _))

theorem Bare.exists_cons (h : Bare name) :
    ∃ c cs, name = c :: cs ∧ ∀ mark, isBare mark = false → c ≠ mark := by
  obtain ⟨hne, hbare⟩ := h
  cases name with
  | nil => exact absurd rfl hne
  | cons c cs =>
      refine ⟨c, cs, rfl, ?_⟩
      rintro mark hmark rfl
      rw [hbare c List.mem_cons_self] at hmark
      cases hmark

theorem Bare.skipBlanks_append (h : Bare name) (rest : List Char) :
    skipBlanks (name ++ rest) = name ++ rest := by
  obtain ⟨c, cs, rfl, hne⟩ := h.exists_cons
  refine List.dropWhile_cons_of_neg ?_
  simp [isBlank, hne ' ' rfl, hne '\t' rfl]

theorem readKeyPart_bare (h : Bare name) {c : Char} (hc : isBare c = false) (rest : List Char) :
    readKeyPart (name ++ c :: rest) = some (String.ofList name, c :: rest) := by
  have htake : (name ++ c :: rest).takeWhile isBare = name := by
    rw [List.takeWhile_append_of_pos h.2]
    simp [hc]
  have hdrop : (name ++ c :: rest).dropWhile isBare = c :: rest := by
    rw [List.dropWhile_append_of_pos h.2]
    simp [hc]
  have hne := h.1
  obtain ⟨d, ds, rfl, hmark⟩ := h.exists_cons
  unfold readKeyPart
  split
  · rename_i heq
    exact absurd (List.cons.inj heq).1 (hmark '"' rfl)
  · rename_i heq
    exact absurd (List.cons.inj heq).1 (hmark '\'' rfl)
  · simp only [htake, hdrop, if_neg hne]

theorem readKey_bare (h : Bare name) {c : Char} (hc : isBare c = false) (rest : List Char)
    (hdot : ∀ others, skipBlanks (c :: rest) ≠ '.' :: others) :
    readKey (name ++ c :: rest) = some (([], String.ofList name), skipBlanks (c :: rest)) := by
  have hparts (fuel : Nat) : readKeyParts (fuel + 1) (name ++ c :: rest) =
      some ([String.ofList name], skipBlanks (c :: rest)) := by
    rw [readKeyParts, h.skipBlanks_append, readKeyPart_bare h hc]
    simp only [Option.bind_eq_bind, Option.bind_some]
    rfl
  have hlength : (name ++ c :: rest).length = (name ++ rest).length + 1 := by simp; omega
  rw [readKey, hlength, hparts]
  rfl

/-! ## Lines -/

theorem finishLine_lineEnd (rest : List Char) : finishLine ('\n' :: rest) = some rest := rfl

theorem readAssignment_bare (value : Reader Toml) (h : Bare name)
    (hblank : skipBlanks (t ++ '\n' :: rest) = t ++ '\n' :: rest)
    (hvalue : value (t ++ '\n' :: rest) = some (v, '\n' :: rest)) :
    readAssignment value (name ++ ' ' :: '=' :: ' ' :: (t ++ '\n' :: rest)) =
      some (⟨[], String.ofList name, v⟩, '\n' :: rest) := by
  have hkey := readKey_bare (c := ' ') h rfl ('=' :: ' ' :: (t ++ '\n' :: rest))
    fun others => by simp [skipBlanks, isBlank]
  have hequals : skipBlanks (' ' :: '=' :: ' ' :: (t ++ '\n' :: rest)) =
      '=' :: ' ' :: (t ++ '\n' :: rest) := rfl
  have hafter : skipBlanks (' ' :: (t ++ '\n' :: rest)) = t ++ '\n' :: rest := hblank
  rw [hequals] at hkey
  simp only [readAssignment, hkey, Option.bind_eq_bind, Option.bind_some, hafter, hvalue]
  rfl

theorem readStatement_assignment (h : Bare name) (hv : Spells t v) (rest : List Char) :
    readStatement (name ++ ' ' :: '=' :: ' ' :: (t ++ '\n' :: rest)) =
      some (.assignment ⟨[], String.ofList name, v⟩, '\n' :: rest) := by
  have hassignment := readAssignment_bare
    (readValue (name ++ ' ' :: '=' :: ' ' :: (t ++ '\n' :: rest)).length (depthLimit - 1)) h
    (hv.skipBlanks_append rest) (hv _ _ rest)
  obtain ⟨c, cs, hcons, hmark⟩ := h.exists_cons
  unfold readStatement
  split
  · rename_i heq
    rw [hcons] at heq
    exact absurd (List.cons.inj heq).1 (hmark '[' rfl)
  · rw [hassignment]
    rfl

theorem readStatement_header (h : Bare name) (rest : List Char) :
    readStatement ('[' :: (name ++ ']' :: '\n' :: rest)) =
      some (.header ⟨[], String.ofList name, false⟩, '\n' :: rest) := by
  have hkey := readKey_bare (c := ']') h rfl ('\n' :: rest)
    fun others => by simp [skipBlanks, isBlank]
  have hclosed : skipBlanks (']' :: '\n' :: rest) = ']' :: '\n' :: rest := rfl
  rw [hclosed] at hkey
  obtain ⟨c, cs, hcons, hmark⟩ := h.exists_cons
  have hheader : readHeader (name ++ ']' :: '\n' :: rest) =
      some (⟨[], String.ofList name, false⟩, '\n' :: rest) := by
    unfold readHeader
    split
    · rename_i heq
      rw [hcons] at heq
      exact absurd (List.cons.inj heq).1 (hmark '[' rfl)
    · simp only [hkey, Option.bind_eq_bind, Option.bind_some]
      rfl
  rw [readStatement, hheader]
  rfl

/-- What a text says line by line. -/
def Says (cs : List Char) (statements : List Statement) : Prop :=
  ∀ fuel, cs.length < fuel → readStatements fuel cs = some statements

variable {statements : List Statement}

theorem says_nil : Says [] [] := by
  intro fuel hfuel
  cases fuel with
  | zero => cases hfuel
  | succ fuel => rfl

/-- A statement up to the end of its line comes before what the other lines say. -/
theorem readStatements_cons {c : Char} {cs : List Char} {statement : Statement} {fuel : Nat}
    (hc : c ≠ '#' ∧ c ≠ '\n' ∧ c ≠ '\r') (hblank : skipBlanks (c :: cs) = c :: cs)
    (h : readStatement (c :: cs) = some (statement, '\n' :: rest)) :
    readStatements (fuel + 1) (c :: cs) =
      (readStatements fuel rest).map fun others => statement :: others := by
  have hstart : ¬(c = '#' ∨ c = '\n' ∨ c = '\r') := by simp [hc]
  rw [readStatements, hblank]
  simp only [if_neg hstart, h, Option.bind_eq_bind, Option.bind_some, finishLine_lineEnd,
    Option.map_eq_bind]
  rfl

theorem Says.assignment (hrest : Says rest statements) (h : Bare name) (hv : Spells t v) :
    Says (name ++ ' ' :: '=' :: ' ' :: (t ++ '\n' :: rest))
      (.assignment ⟨[], String.ofList name, v⟩ :: statements) := by
  intro fuel hfuel
  cases fuel with
  | zero => cases hfuel
  | succ fuel =>
      have hnext := hrest fuel (by simp at hfuel; omega)
      have hstatement := readStatement_assignment h hv rest
      have hblank := h.skipBlanks_append (' ' :: '=' :: ' ' :: (t ++ '\n' :: rest))
      obtain ⟨c, cs, rfl, hmark⟩ := h.exists_cons
      rw [List.cons_append] at hblank hstatement ⊢
      rw [readStatements_cons ⟨hmark '#' rfl, hmark '\n' rfl, hmark '\r' rfl⟩ hblank hstatement,
        hnext]
      rfl

theorem Says.header (hrest : Says rest statements) (h : Bare name) :
    Says ('\n' :: '[' :: (name ++ ']' :: '\n' :: rest))
      (.header ⟨[], String.ofList name, false⟩ :: statements) := by
  intro fuel hfuel
  obtain ⟨fuel, rfl⟩ : ∃ next, fuel = next + 2 := ⟨fuel - 2, by simp at hfuel; omega⟩
  have hnext := hrest fuel (by simp at hfuel; omega)
  have hblankLine (cs : List Char) :
      readStatements (fuel + 2) ('\n' :: cs) = readStatements (fuel + 1) cs := rfl
  rw [hblankLine, readStatements_cons ⟨by decide, by decide, by decide⟩ rfl
    (readStatement_header h rest), hnext]
  rfl

/-! ## Building the table -/

abbrev Entries := List (String × Toml)

def field (entry : String × Toml) : Assignment := ⟨[], entry.1, entry.2⟩

/-- The statements of a document with entries of its own and sections of entries. -/
def outline (root : Entries) (parts : List (String × Entries)) : List Statement :=
  root.map (fun entry => .assignment (field entry)) ++ parts.flatMap fun part =>
    .header ⟨[], part.1, false⟩ :: part.2.map fun entry => .assignment (field entry)

theorem sections_append (entries : Entries) (rest : List Statement) :
    sections (entries.map (fun entry => .assignment (field entry)) ++ rest) =
      (entries.map field ++ (sections rest).1, (sections rest).2) := by
  induction entries with
  | nil => rfl
  | cons entry entries ih => rw [List.map_cons, List.cons_append, sections, ih]; rfl

theorem sections_outline (root : Entries) (parts : List (String × Entries)) :
    sections (outline root parts) =
      (root.map field, parts.map fun part => (⟨[], part.1, false⟩, part.2.map field)) := by
  have hparts : sections (parts.flatMap fun part =>
      .header ⟨[], part.1, false⟩ :: part.2.map fun entry => .assignment (field entry)) =
        ([], parts.map fun part => (⟨[], part.1, false⟩, part.2.map field)) := by
    induction parts with
    | nil => rfl
    | cons part parts ih =>
        rw [List.flatMap_cons, List.cons_append, sections, sections_append, ih]
        simp
  rw [outline, sections_append, hparts, List.append_nil]

namespace Members

theorem alter_of_not_mem {members : Members} {key : String} (h : key ∉ members.map Prod.fst)
    (change : Option Draft → Option Draft) :
    members.alter key change = (change none).map fun draft => members ++ [(key, draft)] := by
  induction members with
  | nil => rfl
  | cons member members ih =>
      obtain ⟨k, draft⟩ := member
      simp only [List.map_cons, List.mem_cons, not_or] at h
      rw [alter, if_neg (Ne.symm h.1), ih h.2]
      cases change none <;> rfl

theorem assign_field {members : Members} {entry : String × Toml}
    (h : entry.1 ∉ members.map Prod.fst) :
    members.assign (field entry) = some (members ++ [(entry.1, .value entry.2)]) := by
  simp [assign, within, field, alter_of_not_mem h]

theorem assignAll_fields (members : Members) (entries : Entries)
    (h : (members.map Prod.fst ++ entries.map Prod.fst).Nodup) :
    members.assignAll (entries.map field) =
      some (members ++ entries.map fun entry => (entry.1, .value entry.2)) := by
  induction entries generalizing members with
  | nil => simp [assignAll]
  | cons entry entries ih =>
      have hfresh : entry.1 ∉ members.map Prod.fst := fun hmem =>
        (List.nodup_append.1 h).2.2 _ hmem _ List.mem_cons_self rfl
      have hnext := ih (members ++ [(entry.1, .value entry.2)]) (by simpa using h)
      rw [assignAll] at hnext ⊢
      rw [List.map_cons, List.foldlM_cons, assign_field hfresh]
      simpa using hnext

theorem addSection_fields {members : Members} {part : String × Entries}
    (hfresh : part.1 ∉ members.map Prod.fst) (h : (part.2.map Prod.fst).Nodup) :
    members.addSection ⟨[], part.1, false⟩ (part.2.map field) =
      some (members ++ [(part.1,
        .table .opened (part.2.map fun entry => (entry.1, .value entry.2)))]) := by
  have hall := assignAll_fields [] part.2 (by simpa using h)
  simp [addSection, within, alter_of_not_mem hfresh, hall]

theorem foldlM_addSection (members : Members) (parts : List (String × Entries))
    (h : (members.map Prod.fst ++ parts.map Prod.fst).Nodup)
    (hparts : ∀ part ∈ parts, (part.2.map Prod.fst).Nodup) :
    (parts.map fun part => (⟨[], part.1, false⟩, part.2.map field)).foldlM
        (fun members (part : SectionHeader × List Assignment) =>
          addSection members part.1 part.2) members =
      some (members ++ parts.map fun part =>
        (part.1, .table .opened (part.2.map fun entry => (entry.1, .value entry.2)))) := by
  induction parts generalizing members with
  | nil => simp
  | cons part parts ih =>
      have hfresh : part.1 ∉ members.map Prod.fst := fun hmem =>
        (List.nodup_append.1 h).2.2 _ hmem _ List.mem_cons_self rfl
      have hnext := ih (members ++ [(part.1,
          .table .opened (part.2.map fun entry => (entry.1, .value entry.2)))]) (by simpa using h)
        fun later hlater => hparts later (List.mem_cons_of_mem part hlater)
      rw [List.map_cons, List.foldlM_cons, addSection_fields hfresh
        (hparts part List.mem_cons_self)]
      simpa using hnext

end Members

def contents (root : Entries) (parts : List (String × Entries)) : Entries :=
  root ++ parts.map fun part => (part.1, .table part.2)

theorem finishMembers_append (first second : List (String × Draft)) :
    finishMembers (first ++ second) = finishMembers first ++ finishMembers second := by
  induction first with
  | nil => rfl
  | cons member first ih => obtain ⟨key, draft⟩ := member; simp [finishMembers, ih]

theorem finishMembers_values (entries : Entries) :
    finishMembers (entries.map fun entry => (entry.1, .value entry.2)) = entries := by
  induction entries with
  | nil => rfl
  | cons entry entries ih => simp [finishMembers, Draft.finish, ih]

theorem finishMembers_tables (parts : List (String × Entries)) :
    finishMembers (parts.map fun part =>
      (part.1, .table .opened (part.2.map fun entry => (entry.1, .value entry.2)))) =
        parts.map fun part => (part.1, .table part.2) := by
  induction parts with
  | nil => rfl
  | cons part parts ih => simp [finishMembers, Draft.finish, finishMembers_values, ih]

/-- A document whose keys differ describes each entry and each section as it stands. -/
theorem build_outline {root : Entries} {parts : List (String × Entries)}
    (hkeys : ((contents root parts).map Prod.fst).Nodup)
    (hparts : ∀ part ∈ parts, (part.2.map Prod.fst).Nodup) :
    (build (outline root parts)).map finishMembers = some (contents root parts) := by
  have hsplit : (contents root parts).map Prod.fst = root.map Prod.fst ++ parts.map Prod.fst := by
    simp [contents, Function.comp_def]
  rw [hsplit] at hkeys
  have hroot := Members.assignAll_fields [] root (List.nodup_append.1 hkeys).1
  have hsections := Members.foldlM_addSection
    (root.map fun entry => (entry.1, .value entry.2)) parts
    (by simpa [Function.comp_def] using hkeys) hparts
  simp only [build, sections_outline, hroot, Option.bind_eq_bind, Option.bind_some,
    List.nil_append, hsections, Option.map_some, finishMembers_append, finishMembers_values,
    finishMembers_tables, contents]

theorem read?_of_says {cs : List Char} {root : Entries} {parts : List (String × Entries)}
    (h : Says cs (outline root parts)) (hmark : dropByteOrder cs = cs)
    (hkeys : ((contents root parts).map Prod.fst).Nodup)
    (hparts : ∀ part ∈ parts, (part.2.map Prod.fst).Nodup) :
    read? (String.ofList cs) = some (contents root parts) := by
  have hbuild := build_outline hkeys hparts
  have hsays := h (cs.length + 1) (Nat.lt_succ_self _)
  simp only [read?, String.toList_ofList, hmark, hsays, Option.bind_eq_bind, Option.bind_some]
  rw [← hbuild, Option.map_eq_bind]
  rfl

end StageAtlas.Toml
