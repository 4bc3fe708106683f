import MipsWord.Proofs.Instruction.Text

/-!
This module contains the parts of assembly text for any instruction, decoded or not: its fields can be missing,
repeated or of another format, and its table entry need not fit its format. The parts that carry a role are the
mnemonic and the operands of the family, and these operands are the ones that the instruction uses.
-/

namespace MipsWord

variable {instruction : Instruction} {spec : Spec} {name : FieldName}

def FieldName.IsOperand (name : FieldName) : Prop :=
  name ∉ [FieldName.opcode, .funct, .unknown]

theorem Family.isOperand_of_textOperands {family : Family} (h : name ∈ family.textOperands) :
    name.IsOperand := by
  unfold FieldName.IsOperand
  revert h
  cases family <;> cases name <;> decide

theorem Family.mem_textOperands_of_role_ne_unused {family : Family} (hoperand : name.IsOperand)
    (hrole : family.role name ≠ .unused) : name ∈ family.textOperands := by
  unfold FieldName.IsOperand at hoperand
  revert hoperand hrole
  cases family <;> cases name <;> decide

theorem Family.count_textOperands {family : Family} (h : name ∈ family.textOperands) :
    family.textOperands.count name = 1 := by
  revert h
  cases family <;> cases name <;> decide

theorem OperandSet.contains_singleton_iff {other : FieldName} :
    (singleton other).contains name = true ↔ other = name ∧ name.IsOperand := by
  unfold FieldName.IsOperand
  cases other <;> cases name <;> decide

theorem Instruction.operand?_eq_none_iff {family : Family} :
    instruction.operand? family name = none ↔ ∀ field ∈ instruction.fields, field.name ≠ name := by
  unfold operand? field?
  rw [Option.map_eq_none_iff, List.find?_eq_none]
  simp only [decide_eq_true_eq]

structure Instruction.ShowsOperand (instruction : Instruction) (name : FieldName) (part : Part) :
    Prop where
  first : ∃ before field after, instruction.fields = before ++ field :: after ∧ field.name = name ∧
    (∀ other ∈ before, other.name ≠ name) ∧ part.text = field.display
  role : ∃ role, role ≠ .unused ∧ instruction.role? name = some role ∧ part.role = some role

theorem Instruction.showsOperand_of_operand? {part : Part} (hspec : instruction.spec = some spec)
    (hname : name ∈ spec.family.textOperands) (hpart : instruction.operand? spec.family name = some part) :
    instruction.ShowsOperand name part := by
  unfold operand? at hpart
  obtain ⟨field, hfield, rfl⟩ := Option.map_eq_some_iff.1 hpart
  have hfind : instruction.fields.find? (·.name = name) = some field := hfield
  obtain ⟨hfound, before, after, hfields, hbefore⟩ := List.find?_eq_some_iff_append.1 hfind
  rw [decide_eq_true_eq] at hfound
  constructor
  · refine ⟨before, field, after, hfields, hfound, ?_, rfl⟩
    intro other hother
    simpa using hbefore other hother
  · refine ⟨spec.family.role name, role_ne_unused_of_textOperands spec.family name hname, ?_, rfl⟩
    rw [role?, hfield, Option.map_some, hfound, roleOf_of_spec hspec]

theorem Instruction.isSome_mapM_operand?_iff {family : Family} {names : List FieldName} :
    (names.mapM (instruction.operand? family)).isSome = true ↔
      ∀ name ∈ names, ∃ field ∈ instruction.fields, field.name = name := by
  rw [isSome_mapM_iff]
  simp [operand?_eq_none_iff]

theorem Family.filter_punctuate {family : Family} {operands : List Part}
    (h : ∀ part ∈ operands, part.role.isSome = true) :
    (family.punctuate operands).filter (·.role.isSome) = operands := by
  unfold punctuate
  split
  · simp only [List.forall_mem_cons] at h
    obtain ⟨hregister, hoffset, hbase, -⟩ := h
    simp [Part.separator, hregister, hoffset, hbase]
  · exact filter_intersperse rfl h

theorem Family.mem_of_mem_punctuate {family : Family} {operands : List Part} {part : Part}
    (h : part ∈ family.punctuate operands) :
    part ∈ operands ∨ part ∈ [Part.separator ", ", .separator "(", .separator ")"] := by
  unfold punctuate at h
  split at h
  · simp only [List.mem_cons, List.not_mem_nil, or_false] at h ⊢
    grind
  · obtain hoperand | rfl := mem_of_mem_intersperse h
    · exact .inl hoperand
    · exact .inr List.mem_cons_self

/--
The parts show an instruction of the entry. Those with a role are the mnemonic and the operands of the family, in
the order in which they are written, and the instruction uses no other operand.
-/
structure Instruction.ShownBy (instruction : Instruction) (spec : Spec) (parts : List Part) :
    Prop where
  tokens : ∃ operands,
    parts.filter (·.role.isSome) = .token spec.mnemonic .instruction :: operands ∧
      List.Forall₂ instruction.ShowsOperand spec.family.textOperands operands
  separators : ∀ part ∈ parts, part.role = none → part.text ∈ [" ", ", ", "(", ")"]
  text : instruction.text? = some (String.join (parts.map (·.text)))
  roles : instruction.textRoles? = some (parts.filterMap (·.role))
  used : ∀ name, instruction.usedOperands.contains name = true ↔ name ∈ spec.family.textOperands
  once : ∀ field ∈ instruction.fields, field.name.IsOperand →
    instruction.roleOf field.name ≠ .unused → spec.family.textOperands.count field.name = 1

theorem Instruction.exists_spec_of_parts? (h : instruction.parts?.isSome = true) :
    instruction.format ≠ none ∧ ∃ spec, instruction.spec = some spec := by
  constructor
  · intro hformat
    rw [parts?_eq_none (.inl hformat)] at h
    contradiction
  · rw [← Option.ne_none_iff_exists']
    intro hspec
    rw [parts?_eq_none (.inr hspec)] at h
    contradiction

theorem Instruction.isSome_parts?_iff :
    instruction.parts?.isSome = true ↔ instruction.format ≠ none ∧ ∃ spec,
      instruction.spec = some spec ∧
        ∀ name ∈ spec.family.textOperands, ∃ field ∈ instruction.fields, field.name = name := by
  constructor
  · intro hsome
    obtain ⟨hformat, spec, hspec⟩ := exists_spec_of_parts? hsome
    rw [parts?_of_spec hformat hspec, Option.isSome_map, isSome_mapM_operand?_iff] at hsome
    exact ⟨hformat, spec, hspec, hsome⟩
  · rintro ⟨hformat, spec, hspec, hfields⟩
    rwa [parts?_of_spec hformat hspec, Option.isSome_map, isSome_mapM_operand?_iff]

theorem Instruction.exists_operands_of_parts? {parts : List Part}
    (h : instruction.parts? = some parts) :
    ∃ spec operands, instruction.spec = some spec ∧
      spec.family.textOperands.mapM (instruction.operand? spec.family) = some operands ∧
      parts = .token spec.mnemonic .instruction :: .separator " " :: spec.family.punctuate operands := by
  obtain ⟨hformat, spec, hspec⟩ := exists_spec_of_parts? (Option.isSome_of_eq_some h)
  rw [parts?_of_spec hformat hspec] at h
  obtain ⟨operands, hoperands, rfl⟩ := Option.map_eq_some_iff.1 h
  exact ⟨spec, operands, hspec, hoperands, rfl⟩

section Shown

variable {operands : List Part} (hspec : instruction.spec = some spec)
  (hoperands : spec.family.textOperands.mapM (instruction.operand? spec.family) = some operands)

include hspec hoperands

theorem Instruction.forall₂_showsOperand :
    List.Forall₂ instruction.ShowsOperand spec.family.textOperands operands := by
  have hparts := forall₂_of_mapM hoperands
  have hall := (List.forall₂_and_left _ _).2 ⟨fun _ (h : _ ∈ spec.family.textOperands) => h, hparts⟩
  apply hall.imp
  rintro name part ⟨hname, hpart⟩
  exact showsOperand_of_operand? hspec hname hpart

theorem Instruction.isSome_role_of_mem : ∀ part ∈ operands, part.role.isSome = true := by
  apply forall_mem_of_forall₂ (p := fun part => part.role.isSome = true)
    (forall₂_showsOperand hspec hoperands)
  intro name part hshows
  obtain ⟨role, -, -, hrole⟩ := hshows.role
  rw [hrole]
  rfl

theorem Instruction.contains_usedOperands_iff :
    instruction.usedOperands.contains name = true ↔ name ∈ spec.family.textOperands := by
  unfold usedOperands
  rw [OperandSet.contains_ofNames, List.any_eq_true]
  simp only [OperandSet.contains_singleton_iff, List.mem_filter, decide_eq_true_eq]
  constructor
  · rintro ⟨_, ⟨-, hrole⟩, rfl, hoperand⟩
    rw [roleOf_of_spec hspec] at hrole
    exact Family.mem_textOperands_of_role_ne_unused hoperand hrole
  · intro hname
    have hall := isSome_mapM_operand?_iff.1 (by rw [hoperands]; rfl)
    obtain ⟨field, hfield, hfound⟩ := hall name hname
    refine ⟨name, ⟨?_, ?_⟩, rfl, Family.isOperand_of_textOperands hname⟩
    · rw [← hfound]
      exact List.mem_map_of_mem hfield
    · rw [roleOf_of_spec hspec]
      exact role_ne_unused_of_textOperands spec.family name hname

end Shown

theorem Instruction.shownBy_of_parts? {parts : List Part} (h : instruction.parts? = some parts) :
    ∃ spec, instruction.spec = some spec ∧ instruction.ShownBy spec parts := by
  obtain ⟨spec, operands, hspec, hoperands, rfl⟩ := exists_operands_of_parts? h
  have hroles := isSome_role_of_mem hspec hoperands
  refine ⟨spec, hspec, ?_⟩
  constructor
  · refine ⟨operands, ?_, forall₂_showsOperand hspec hoperands⟩
    rw [List.filter_cons_of_pos rfl, List.filter_cons_of_neg Bool.false_ne_true,
      Family.filter_punctuate hroles]
  · intro part hpart hnone
    rw [List.mem_cons, List.mem_cons] at hpart
    obtain rfl | rfl | hpart := hpart
    · contradiction
    · exact List.mem_cons_self
    · obtain hoperand | hseparator := Family.mem_of_mem_punctuate hpart
      · have hsome := hroles part hoperand
        rw [hnone] at hsome
        contradiction
      · have htext := List.mem_map_of_mem (f := (·.text)) hseparator
        exact List.mem_cons_of_mem " " htext
  · rw [text?, h, Option.map_some, Option.some.injEq]
    apply String.toList_injective
    rw [String.toList_ofList, String.toList_join, List.flatMap_map]
  · rw [textRoles?, h, Option.map_some]
  · intro name
    exact contains_usedOperands_iff hspec hoperands
  · intro field _ hoperand hrole
    rw [roleOf_of_spec hspec] at hrole
    exact Family.count_textOperands (Family.mem_textOperands_of_role_ne_unused hoperand hrole)

theorem parts_show_operands (instruction : Instruction) :
    (instruction.parts?.isSome = true ↔ instruction.format ≠ none ∧ ∃ spec,
      instruction.spec = some spec ∧
        ∀ name ∈ spec.family.textOperands, ∃ field ∈ instruction.fields, field.name = name) ∧
      ∀ parts, instruction.parts? = some parts →
        ∃ spec, instruction.spec = some spec ∧ instruction.ShownBy spec parts := by
  refine ⟨Instruction.isSome_parts?_iff, ?_⟩
  intro parts
  exact Instruction.shownBy_of_parts?

def Instruction.crowded : Instruction where
  format := some .r
  fields :=
    [⟨.unknown, "1", 1, "?"⟩, ⟨.rt, "01000", 8, "$t0"⟩, ⟨.shamt, "00001", 1, "1"⟩,
      ⟨.rt, "01001", 9, "$t1"⟩, ⟨.rs, "11101", 29, "$sp"⟩, ⟨.immediate, "100", 32768, "-0x8"⟩]
  spec := some ⟨"lw", 35, none, .i, "Load Word"⟩

theorem parts_show_operands_crowded :
    Instruction.crowded.parts?.isSome = true ∧ ∃ parts, Instruction.crowded.parts? = some parts ∧
      Instruction.crowded.ShownBy ⟨"lw", 35, none, .i, "Load Word"⟩ parts ∧
      Instruction.crowded.text? = some "lw $t0, -0x8($sp)" := by
  obtain ⟨hsome, hshown⟩ := parts_show_operands Instruction.crowded
  have hparts : Instruction.crowded.parts?.isSome = true := by decide +kernel
  obtain ⟨parts, heq⟩ := Option.isSome_iff_exists.1 hparts
  obtain ⟨spec, hspec, hby⟩ := hshown parts heq
  cases hspec
  exact ⟨hparts, parts, heq, hby, by decide +kernel⟩

end MipsWord
