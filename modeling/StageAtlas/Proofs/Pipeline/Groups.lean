import StageAtlas.Proofs.Pipeline.Order

/-! # Pipeline order is grouping by kind

Sorting by rank keeps stages of one rank as the document has them, so it only brings together the
stages of each kind: the parsers, the controls, the deparsers and then everything else.
-/

namespace StageAtlas

/-! ## Lists that a key sorts -/

section Sorted

variable {α : Type} {key : α → Nat}

/-- In a sorted list the elements of the least key stand in front. -/
theorem filter_append_filter_of_sorted {least : Nat} {l : List α}
    (hsorted : l.Pairwise fun a b => key a ≤ key b) (hleast : ∀ a ∈ l, least ≤ key a) :
    l.filter (key · = least) ++ l.filter (key · ≠ least) = l := by
  induction l with
  | nil => rfl
  | cons a rest ih =>
      obtain ⟨hhead, hrest⟩ := List.pairwise_cons.1 hsorted
      by_cases ha : key a = least
      · have htail := ih hrest fun b hb => hleast b (List.mem_cons_of_mem a hb)
        simpa [ha] using htail
      · -- Behind a greater key there is no least one any more.
        have hgreater : ∀ b ∈ a :: rest, key b ≠ least := by
          intro b hb
          have hhere : least ≤ key a := hleast a List.mem_cons_self
          rcases List.mem_cons.1 hb with rfl | hb
          · exact ha
          · have hle := hhead b hb
            omega
        have hnone : (a :: rest).filter (key · = least) = [] := by
          simpa [List.filter_eq_nil_iff] using hgreater
        have hall : (a :: rest).filter (key · ≠ least) = a :: rest := by
          simpa [List.filter_eq_self] using hgreater
        rw [hnone, hall, List.nil_append]

/-- A sorted list is made of the groups of its keys, in the order of the keys. -/
theorem flatMap_filter_of_sorted {keys : List Nat} {l : List α}
    (hkeys : keys.Pairwise (· < ·)) (hsorted : l.Pairwise fun a b => key a ≤ key b)
    (hmem : ∀ a ∈ l, key a ∈ keys) :
    (keys.flatMap fun k => l.filter (key · = k)) = l := by
  induction keys generalizing l with
  | nil =>
      have hnil : l = [] := List.eq_nil_iff_forall_not_mem.2 fun a ha => by simpa using hmem a ha
      simp [hnil]
  | cons least keys ih =>
      obtain ⟨hbelow, hkeys⟩ := List.pairwise_cons.1 hkeys
      have hleast : ∀ a ∈ l, least ≤ key a := by
        intro a ha
        rcases List.mem_cons.1 (hmem a ha) with heq | hin
        · omega
        · have hlt := hbelow _ hin
          omega
      have hothers : ∀ a ∈ l.filter (key · ≠ least), key a ∈ keys := by
        intro a ha
        obtain ⟨hin, hne⟩ := List.mem_filter.1 ha
        exact (List.mem_cons.1 (hmem a hin)).resolve_left (of_decide_eq_true hne)
      have hgroups : ∀ k ∈ keys,
          (l.filter (key · ≠ least)).filter (key · = k) = l.filter (key · = k) := by
        intro k hk
        rw [List.filter_filter]
        apply List.filter_congr
        intro a _
        have hlt : least < k := hbelow k hk
        by_cases ha : key a = k
        · have hne : key a ≠ least := by omega
          simp [ha, ha ▸ hne]
        · simp [ha]
      have htail := ih hkeys (hsorted.filter _) hothers
      rw [List.flatMap_cons, ← List.flatMap_congr hgroups, htail]
      exact filter_append_filter_of_sorted hsorted hleast

end Sorted

namespace StageKind

def isOther : StageKind → Bool
  | other _ => true
  | _ => false

def ranks : List Nat := [0, 1, 2, 99]

theorem rank_mem_ranks (kind : StageKind) : kind.rank ∈ ranks := by
  cases kind <;> simp [rank, ranks]

theorem rank_eq_zero_iff (kind : StageKind) : kind.rank = 0 ↔ kind = parser := by
  cases kind <;> simp [rank]

theorem rank_eq_one_iff (kind : StageKind) : kind.rank = 1 ↔ kind = control := by
  cases kind <;> simp [rank]

theorem rank_eq_two_iff (kind : StageKind) : kind.rank = 2 ↔ kind = deparser := by
  cases kind <;> simp [rank]

theorem rank_eq_last_iff (kind : StageKind) : kind.rank = 99 ↔ kind.isOther := by
  cases kind <;> simp [rank, isOther]

end StageKind

namespace Stage

theorem precedes_trans (a b c : Stage) (hab : a.precedes b) (hbc : b.precedes c) :
    a.precedes c := by
  simp only [precedes, decide_eq_true_eq] at *
  exact Nat.le_trans hab hbc

theorem precedes_total (a b : Stage) : (a.precedes b || b.precedes a) = true := by
  simp only [precedes, Bool.or_eq_true, decide_eq_true_eq]
  exact Nat.le_total _ _

theorem pairwise_rank_inOrder (stages : List Stage) :
    (inOrder stages).Pairwise fun a b => a.kind.rank ≤ b.kind.rank := by
  have hsorted := List.pairwise_mergeSort precedes_trans precedes_total stages
  exact hsorted.imp fun hab => of_decide_eq_true hab

theorem filter_rank_inOrder (rank : Nat) (stages : List Stage) :
    (inOrder stages).filter (·.kind.rank = rank) = stages.filter (·.kind.rank = rank) := by
  induction stages with
  | nil => simp [inOrder]
  | cons stage rest ih =>
      obtain ⟨front, back, hwhole, hrest, hfront⟩ :=
        List.mergeSort_cons precedes_trans precedes_total stage rest
      rw [inOrder, hrest, List.filter_append] at ih
      rw [inOrder, hwhole, List.filter_append, List.filter_cons, List.filter_cons]
      by_cases hstage : stage.kind.rank = rank
      · -- What the sort puts before the first stage of the document has a lower rank.
        have hnone : front.filter (·.kind.rank = rank) = [] := by
          rw [List.filter_eq_nil_iff]
          intro other hother hrank
          have hlower := hfront other hother
          have hequal := of_decide_eq_true hrank
          simp [precedes, hstage, hequal] at hlower
        rw [hnone, List.nil_append] at ih
        simp [hnone, hstage, ih]
      · simp [hstage, ih]

/-- The parsers, the controls, the deparsers and all other stages, each group in the order of the
document. -/
def groups (stages : List Stage) : List (List Stage) :=
  [stages.filter (·.kind = .parser), stages.filter (·.kind = .control),
    stages.filter (·.kind = .deparser), stages.filter (·.kind.isOther)]

theorem flatMap_ranks_eq_groups (stages : List Stage) :
    (StageKind.ranks.flatMap fun rank => stages.filter (·.kind.rank = rank)) =
      (groups stages).flatten := by
  simp [StageKind.ranks, groups, StageKind.rank_eq_zero_iff, StageKind.rank_eq_one_iff,
    StageKind.rank_eq_two_iff, StageKind.rank_eq_last_iff]

theorem inOrder_eq_flatten_groups (stages : List Stage) :
    inOrder stages = (groups stages).flatten := by
  have hranks : StageKind.ranks.Pairwise (· < ·) := by decide
  have hgrouped := flatMap_filter_of_sorted hranks (pairwise_rank_inOrder stages)
    fun stage _ => stage.kind.rank_mem_ranks
  simp only [filter_rank_inOrder] at hgrouped
  rw [← hgrouped, flatMap_ranks_eq_groups]

theorem inOrder_inOrder (stages : List Stage) : inOrder (inOrder stages) = inOrder stages :=
  List.mergeSort_of_pairwise (List.pairwise_mergeSort precedes_trans precedes_total stages)

end Stage

namespace Program

/-- The descriptors are those of the four groups, one behind the other, and tell of every stage just
once. Where the groups of two programs agree, their descriptors do, and stages that are put in order
stay as they are. -/
theorem descriptors_eq_groups (program : Program) :
    (program.descriptors = (Stage.groups program.stages).flatten.mapIdx fun index stage =>
      { id := ⟨stage.name⟩
        name := stage.name
        kind := stage.kind
        orderIndex := index
        stats :=
          ⟨stage.tables.length, (stage.actions.getD []).length, (stage.states.getD []).length⟩ }) ∧
      (Stage.groups program.stages).flatten.Perm program.stages ∧
      (∀ other : Program, Stage.groups other.stages = Stage.groups program.stages →
        other.descriptors = program.descriptors) ∧
      { program with stages := Stage.inOrder program.stages }.descriptors =
        program.descriptors := by
  refine ⟨?_, ?_, fun other hgroups => ?_, ?_⟩
  · rw [descriptors, Stage.inOrder_eq_flatten_groups]
    rfl
  · rw [← Stage.inOrder_eq_flatten_groups]
    exact Stage.inOrder_perm program.stages
  · rw [descriptors, descriptors, Stage.inOrder_eq_flatten_groups, hgroups,
      Stage.inOrder_eq_flatten_groups]
  · rw [descriptors, descriptors, Stage.inOrder_inOrder]

/-- Two documents that mix the same groups differently, with a name that comes twice. -/
theorem descriptors_eq_of_mixed_groups :
    let stages : List Stage := [.bare "metrics" (.other "package"), .bare "egress" .control,
      .bare "start" .parser, .bare "emit" .deparser, .bare "ingress" .control,
      .bare "start" .parser, .bare "queue" .unknown]
    let mixed : List Stage := [.bare "start" .parser, .bare "start" .parser,
      .bare "egress" .control, .bare "metrics" (.other "package"), .bare "queue" .unknown,
      .bare "ingress" .control, .bare "emit" .deparser]
    Stage.groups mixed = Stage.groups stages ∧
      (⟨mixed, .empty, some "b.json"⟩ : Program).descriptors =
        (⟨stages, .empty, none⟩ : Program).descriptors := by
  intro stages mixed
  have hgroups : Stage.groups mixed = Stage.groups stages := by decide
  obtain ⟨_, _, hsame, _⟩ := descriptors_eq_groups ⟨stages, .empty, none⟩
  exact ⟨hgroups, hsame ⟨mixed, .empty, some "b.json"⟩ hgroups⟩

end Program

end StageAtlas
