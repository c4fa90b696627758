import Mathlib.Data.List.Nodup
import StageAtlas.Session

/-! # Descriptors of the stages

The pipeline holds exactly the stages of the program. Where the names of a program differ, a name
leads to one descriptor and to one stage.
-/

namespace StageAtlas

namespace Stage

@[simp] theorem id_descriptor (stage : Stage) (index : Nat) :
    (stage.descriptor index).id = ⟨stage.name⟩ := rfl

theorem inOrder_perm (stages : List Stage) : (inOrder stages).Perm stages :=
  List.mergeSort_perm stages precedes

theorem mem_inOrder {stage : Stage} {stages : List Stage} :
    stage ∈ inOrder stages ↔ stage ∈ stages := (inOrder_perm stages).mem_iff

end Stage

namespace Program

theorem map_id_descriptors (program : Program) :
    program.descriptors.map (·.id) =
      (Stage.inOrder program.stages).map fun stage => (⟨stage.name⟩ : StageId) := by
  apply List.ext_getElem
  · simp [descriptors]
  · intro index _ _
    simp [descriptors]

theorem descriptors_eq_nil_iff (program : Program) :
    program.descriptors = [] ↔ program.stages = [] := by
  have hlength : program.descriptors.length = program.stages.length := by
    rw [descriptors, List.length_mapIdx, (Stage.inOrder_perm program.stages).length_eq]
  rw [← List.length_eq_zero_iff, hlength, List.length_eq_zero_iff]

theorem exists_stage_of_mem_descriptors {program : Program} {descriptor : StageDescriptor}
    (h : descriptor ∈ program.descriptors) :
    ∃ stage ∈ program.stages, descriptor.id = ⟨stage.name⟩ := by
  have hid : descriptor.id ∈ program.descriptors.map (·.id) := List.mem_map_of_mem h
  rw [map_id_descriptors] at hid
  obtain ⟨stage, hstage, heq⟩ := List.mem_map.1 hid
  exact ⟨stage, Stage.mem_inOrder.1 hstage, heq.symm⟩

theorem nodup_ids_descriptors {program : Program} (h : (program.stages.map Stage.name).Nodup) :
    (program.descriptors.map (·.id)).Nodup := by
  have hordered : ((Stage.inOrder program.stages).map Stage.name).Nodup :=
    ((Stage.inOrder_perm program.stages).map Stage.name).nodup_iff.2 h
  have hinj : Function.Injective StageId.mk := fun _ _ e => StageId.mk.inj e
  rw [map_id_descriptors]
  simpa [Function.comp_def] using hordered.map hinj

/-- Among distinct names a descriptor that is there is the only one of its identity. -/
theorem count_descriptors_of_knows {program : Program} {id : StageId}
    (h : (program.stages.map Stage.name).Nodup) (hid : Explorer.knows program.descriptors id) :
    program.descriptors.countP (·.id = id) = 1 := by
  have hmem : id ∈ program.descriptors.map (·.id) := by
    simpa [Explorer.knows] using hid
  have hcount := List.count_eq_one_of_mem (nodup_ids_descriptors h) hmem
  rw [List.count, List.countP_map] at hcount
  exact hcount

theorem stage?_isSome_of_knows {program : Program} {id : StageId}
    (h : Explorer.knows program.descriptors id) : (program.stage? id.name).isSome := by
  obtain ⟨descriptor, hmem, hid⟩ := List.any_eq_true.1 h
  obtain ⟨stage, hstage, hname⟩ := exists_stage_of_mem_descriptors hmem
  rw [stage?, List.find?_isSome]
  refine ⟨stage, hstage, ?_⟩
  rw [← eq_of_beq hid, hname]
  exact decide_eq_true rfl

end Program

namespace Explorer

theorem find_isSome_of_knows {stages : List StageDescriptor} {id : StageId}
    (h : knows stages id) : (stages.find? (·.id = id)).isSome := by
  rw [List.find?_isSome]
  simpa [knows] using h

theorem ne_nil_of_knows {stages : List StageDescriptor} {id : StageId} (h : knows stages id) :
    stages ≠ [] := by
  rintro rfl
  simp [knows] at h

end Explorer

end StageAtlas
