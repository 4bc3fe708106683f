import MipsWord.Proofs.Instruction.Decode
import MipsWord.Proofs.Text.Lower

namespace MipsWord

open Text

section Parts

variable {tables : Tables} {settings : Settings} {spec : Spec} {word : String} {name : FieldName}

def Family.punctuate (family : Family) (operands : List Part) : List Part :=
  match family.isLoadStore, operands with
  | true, [register, offset, base] =>
    [register, .separator ", ", offset, .separator "(", base, .separator ")"]
  | _, operands => operands.intersperse (.separator ", ")

theorem Instruction.operands?_eq (instruction : Instruction) (family : Family) :
    instruction.operands? family =
      (family.textOperands.mapM (instruction.operand? family)).map family.punctuate := by
  cases family
  -- The operands of a load or store are written out one by one, in the order of the list.
  case load | store =>
    unfold operands? Family.textOperands
    simp only [List.mapM_cons, List.mapM_nil]
    cases instruction.operand? _ .rt with
    | none => rfl
    | some register =>
      cases instruction.operand? _ .immediate with
      | none => rfl
      | some offset => cases instruction.operand? _ .rs <;> rfl
  all_goals
    unfold operands?
    rw [Option.map_eq_bind]
    rfl

theorem Instruction.parts?_of_spec {instruction : Instruction} (hformat : instruction.format ≠ none)
    (hspec : instruction.spec = some spec) :
    instruction.parts? =
      (spec.family.textOperands.mapM (instruction.operand? spec.family)).map fun operands =>
        .token spec.mnemonic .instruction :: .separator " " :: spec.family.punctuate operands := by
  obtain ⟨format, hformat⟩ := Option.ne_none_iff_exists'.1 hformat
  have hfamily : instruction.family? = some spec.family := by
    unfold family?
    rw [hformat, hspec]
    rfl
  have hmnemonic : instruction.mnemonic? = some spec.mnemonic := by
    rw [mnemonic?, hspec, Option.map_some]
  unfold parts?
  rw [hfamily, hmnemonic]
  simp only [Option.bind_eq_bind, Option.bind_some, operands?_eq]
  cases spec.family.textOperands.mapM (instruction.operand? spec.family) <;> rfl

theorem Instruction.parts?_eq_none {instruction : Instruction}
    (h : instruction.format = none ∨ instruction.spec = none) : instruction.parts? = none := by
  have hfamily : instruction.family? = none := by
    unfold family?
    obtain hformat | hspec := h
    · rw [hformat]
    · rw [hspec]
      cases instruction.format <;> rfl
  unfold parts?
  rw [hfamily]
  rfl

def Family.operandParts (family : Family) (display : FieldName → String) : List Part :=
  family.punctuate (family.textOperands.map fun name => .token (display name) (family.role name))

theorem find?_map_name {names : List FieldName} {field : FieldName → Field}
    (hfield : ∀ name, (field name).name = name) (hname : name ∈ names) :
    (names.map field).find? (·.name = name) = some (field name) := by
  induction names with
  | nil => contradiction
  | cons head names ih =>
    rw [List.map_cons, List.find?_cons, hfield head]
    by_cases heq : head = name
    · subst heq
      simp
    · rw [ih (List.mem_of_ne_of_mem (Ne.symm heq) hname)]
      simp [heq]

theorem operand?_decode (hspec : tables.specOf? word.toList = some spec)
    (hname : name ∈ layout (some spec.format)) :
    (decode tables settings word).operand? spec.family name =
      some (.token (spec.display tables settings (Bits.toWord word.toList) name)
        (spec.family.role name)) := by
  unfold Instruction.operand? Instruction.field?
  rw [fields_of_specOf? hspec, find?_map_name (fun _ => rfl) hname, Option.map_some]

theorem parts?_decode (hspec : tables.specOf? word.toList = some spec)
    (hnames : ∀ name ∈ spec.family.textOperands, name ∈ layout (some spec.format)) :
    (decode tables settings word).parts? =
      some (.token spec.mnemonic .instruction :: .separator " " ::
        spec.family.operandParts (spec.display tables settings (Bits.toWord word.toList))) := by
  have hoperands : spec.family.textOperands.mapM ((decode tables settings word).operand? spec.family) =
      some (spec.family.textOperands.map fun name =>
        .token (spec.display tables settings (Bits.toWord word.toList) name)
          (spec.family.role name)) := by
    apply mapM_of_forall_eq_some
    intro name hname
    exact operand?_decode hspec (hnames name hname)
  rw [Instruction.parts?_of_spec (format_ne_none_of_specOf? hspec) hspec, hoperands]
  rfl

end Parts

def Family.write {ρ : Type} (family : Family) (register : FieldName → ρ) (literal : String) :
    Operands ρ :=
  match family with
  | threeRegister => .threeRegister (register .rd) (register .rs) (register .rt)
  | jumpRegister => .oneRegister (register .rs)
  | shift => .twoRegisterImmediate (register .rd) (register .rt) literal
  | multDiv => .twoRegister (register .rs) (register .rt)
  | moveFrom => .oneRegister (register .rd)
  | load | store => .loadStore (register .rt) (some literal) (register .rs)
  | immediate => .twoRegisterImmediate (register .rt) (register .rs) literal
  | jump => .jump literal

section Write

variable {family : Family} {display register : FieldName → String} {literal : String}

theorem isBlanks_nil : IsBlanks [] :=
  List.forall_mem_nil _

theorem isBlanks_blank : IsBlanks [' '] := by
  intro c hc
  rw [List.mem_singleton.1 hc]
  decide

theorem isComma_comma : IsComma ", ".toList :=
  .intro isBlanks_nil isBlanks_blank

theorem spells_write
    (hdisplay : ∀ name ∈ [FieldName.rs, .rt, .rd], display name = "$" ++ register name)
    (hword : ∀ name ∈ [FieldName.rs, .rt, .rd], IsWord (register name).toList)
    (hliteral : ∀ name ∈ family.textOperands, name ∉ [FieldName.rs, .rt, .rd] →
      display name = literal)
    (hl : IsLiteral literal.toList) :
    SpellsOperands (family.write register literal)
      ((family.operandParts display).flatMap (·.text.toList)) := by
  have hregister : ∀ name ∈ [FieldName.rs, .rt, .rd],
      SpellsRegister (register name) (display name).toList := by
    intro name hname
    rw [hdisplay name hname, String.toList_append]
    exact .intro (hword name hname)
  have hrs := hregister .rs (by simp)
  have hrt := hregister .rt (by simp)
  have hrd := hregister .rd (by simp)
  cases family
  all_goals
    simp only [Family.write, Family.operandParts, Family.punctuate, Family.textOperands,
      Family.isLoadStore, Part.token, Part.separator, List.map_cons, List.map_nil]
  case threeRegister =>
    simpa using SpellsOperands.threeRegister hrd isComma_comma hrs isComma_comma hrt
  case jumpRegister => simpa using SpellsOperands.oneRegister hrs
  case shift =>
    have hshamt : display .shamt = literal := hliteral .shamt (by decide) (by decide)
    rw [hshamt]
    simpa using SpellsOperands.twoRegisterImmediate hrd isComma_comma hrt isComma_comma hl
  case multDiv => simpa using SpellsOperands.twoRegister hrs isComma_comma hrt
  case moveFrom => simpa using SpellsOperands.oneRegister hrd
  -- No blank stands around the offset and the parentheses.
  case load | store =>
    have himmediate : display .immediate = literal := hliteral .immediate (by decide) (by decide)
    have hoffset : ∀ offset ∈ some literal, IsLiteral offset.toList := by
      rintro offset ⟨⟩
      exact hl
    rw [himmediate]
    simpa using
      SpellsOperands.loadStore hrt isComma_comma hoffset isBlanks_nil isBlanks_nil hrs isBlanks_nil
  case immediate =>
    have himmediate : display .immediate = literal := hliteral .immediate (by decide) (by decide)
    rw [himmediate]
    simpa using SpellsOperands.twoRegisterImmediate hrt isComma_comma hrs isComma_comma hl
  case jump =>
    have haddress : display .jumpAddress = literal :=
      hliteral .jumpAddress (by decide) (by decide)
    rw [haddress]
    simpa using SpellsOperands.jump hl

theorem isLower_operandParts
    (h : ∀ name ∈ family.textOperands, IsLower (display name).toList) :
    IsLower ((family.operandParts display).flatMap (·.text.toList)) := by
  have hcomma : IsLower ", ".toList := isLower_of_all (by decide)
  have hopen : IsLower "(".toList := isLower_of_all (by decide)
  have hclose : IsLower ")".toList := isLower_of_all (by decide)
  cases family
  all_goals
    simp only [Family.textOperands, List.forall_mem_cons, List.not_mem_nil, false_imp_iff,
      implies_true, and_true] at h
    simp only [Family.operandParts, Family.punctuate, Family.textOperands, Family.isLoadStore,
      Part.token, Part.separator, List.map_cons, List.map_nil, List.intersperse_cons_cons,
      List.intersperse_singleton, List.flatMap_cons, List.flatMap_nil, isLower_append,
      isLower_nil, h, hcomma, hopen, hclose, and_true]

end Write

variable {tables : Tables} {settings : Settings} {spec : Spec} {word again : String}

/--
Two words show the same instruction, the second with zeros in the fields that mean nothing for it.
-/
structure Instruction.Agrees (original again : Instruction) : Prop where
  format : again.format = original.format
  spec : again.spec = original.spec
  roles : again.roles = original.roles
  parts : again.parts? = original.parts?
  fields : List.Forall₂
    (fun old new => new.name = old.name ∧
      if original.roleOf old.name = .unused then new.value = 0
      else new.value = old.value ∧ new.display = old.display)
    original.fields again.fields

theorem roles_of_specOf? (hspec : tables.specOf? word.toList = some spec) :
    (decode tables settings word).roles = (layout (some spec.format)).map spec.family.role := by
  unfold Instruction.roles
  rw [fields_of_specOf? hspec, List.map_map]
  apply List.map_congr_left
  intro name _
  exact Instruction.roleOf_of_spec hspec name

theorem operandParts_congr {family : Family} {f g : FieldName → String}
    (h : ∀ name ∈ family.textOperands, f name = g name) :
    family.operandParts f = family.operandParts g := by
  unfold Family.operandParts
  rw [List.map_congr_left]
  intro name hname
  rw [h name hname]

theorem role_ne_unused_of_textOperands (family : Family) :
    ∀ name ∈ family.textOperands, family.role name ≠ .unused := by
  cases family <;> decide

theorem agrees_of_slices (hspec : tables.specOf? word.toList = some spec)
    (hagain : tables.specOf? again.toList = some spec)
    (hnames : ∀ name ∈ spec.family.textOperands, name ∈ layout (some spec.format))
    (hused : ∀ name ∈ layout (some spec.format), spec.family.role name ≠ .unused →
      name.slice (Bits.toWord again.toList) = name.slice (Bits.toWord word.toList))
    (hunused : ∀ name ∈ layout (some spec.format), spec.family.role name = .unused →
      Bits.toNat (name.slice (Bits.toWord again.toList)) = 0) :
    (decode tables settings word).Agrees (decode tables settings again) := by
  constructor
  · rw [format_of_specOf? hspec, format_of_specOf? hagain]
  · show tables.specOf? again.toList = tables.specOf? word.toList
    rw [hspec, hagain]
  · rw [roles_of_specOf? hspec, roles_of_specOf? hagain]
  · rw [parts?_decode hspec hnames, parts?_decode hagain hnames]
    congr 3
    apply operandParts_congr
    intro name hname
    unfold Spec.display
    rw [hused name (hnames name hname) (role_ne_unused_of_textOperands spec.family name hname)]
  · rw [fields_of_specOf? hspec, fields_of_specOf? hagain, List.forall₂_map_left_iff,
      List.forall₂_map_right_iff, List.forall₂_same]
    intro name hname
    rw [Instruction.roleOf_of_spec hspec]
    refine ⟨rfl, ?_⟩
    dsimp only
    split
    · next hrole => exact hunused name hname hrole
    · next hrole =>
      unfold Spec.display
      rw [hused name hname hrole]
      exact ⟨rfl, rfl⟩

end MipsWord
