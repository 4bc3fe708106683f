import MipsWord.Proofs.Encode.Number
import MipsWord.Proofs.Encode.Operands
import MipsWord.Proofs.Encode.Pack

/-!
This module contains placed operands: which field every operand of a line goes to, and the word that an
instruction makes of them, as one equation for all forms and families.
-/

namespace MipsWord

def Family.registerFields (family : Family) : Grammar → List FieldName
  | .threeRegister => [.rd, .rs, .rt]
  | .twoRegisterImmediate => if family = .shift then [.rd, .rt] else [.rt, .rs]
  | .loadStore => [.rt, .rs]
  | .jump => []
  | .twoRegister => [.rs, .rt]
  | .oneRegister => if family = .jumpRegister then [.rs] else [.rd]

def Family.literalField : Family → FieldName
  | shift => .shamt
  | jump => .jumpAddress
  | _ => .immediate

def Spec.numberField (spec : Spec) : NumberField :=
  match spec.family with
  | .shift => .shiftAmount
  | .jump => .jumpAddress
  | _ => spec.immediateField

theorem Family.literalField_of_loadStore {family : Family}
    (h : Grammar.loadStore.accepts family = true) : family.literalField = .immediate := by
  revert h
  cases family <;> decide

theorem Spec.numberField_name (spec : Spec) : spec.numberField.name = spec.family.literalField := by
  have himmediate : spec.immediateField.name = .immediate := by
    unfold immediateField
    split <;> rfl
  unfold numberField
  cases spec.family <;> first | rfl | exact himmediate

def NumberField.readOption (field : NumberField) : Option String → Except EncodeError FieldNumber
  | none => .ok { value := 0, note := none }
  | some literal => field.read literal

inductive Placement where
  | registers (rs rt rd : Nat)
  | shift (rt rd : Nat) (amount : String)
  | immediate (rs rt : Nat) (literal : String)
  | jump (address : String)

namespace Placement

def format : Placement → Format
  | registers .. | shift .. => .r
  | immediate .. => .i
  | jump _ => .j

def number : Placement → FieldName → Nat
  | registers rs _ _, .rs | immediate rs _ _, .rs => rs
  | registers _ rt _, .rt | shift rt _ _, .rt | immediate _ rt _, .rt => rt
  | registers _ _ rd, .rd | shift _ rd _, .rd => rd
  | _, _ => 0

def literal? : Placement → Option String
  | registers .. => none
  | shift _ _ literal | immediate _ _ literal | jump literal => some literal

def Suits : Placement → Family → Prop
  | registers .., family => family.isRType = true ∧ family ≠ .shift
  | shift .., family => family = .shift
  | immediate .., family => family = .immediate ∨ family.isLoadStore = true
  | jump _, family => family = .jump

end Placement

inductive Operands.Places (family : Family) : Operands Nat → Placement → Prop where
  | threeRegister {rd rs rt : Nat} (h : family.isRType = true ∧ family ≠ .shift) :
    Places family (.threeRegister rd rs rt) (.registers rs rt rd)
  | twoRegister {rs rt : Nat} (h : family = .multDiv) :
    Places family (.twoRegister rs rt) (.registers rs rt 0)
  | jumpRegister {rs : Nat} (h : family = .jumpRegister) :
    Places family (.oneRegister rs) (.registers rs 0 0)
  | moveFrom {rd : Nat} (h : family = .moveFrom) :
    Places family (.oneRegister rd) (.registers 0 0 rd)
  | shift {rd rt : Nat} {amount : String} (h : family = .shift) :
    Places family (.twoRegisterImmediate rd rt amount) (.shift rt rd amount)
  | immediate {rt rs : Nat} {literal : String} (h : family = .immediate) :
    Places family (.twoRegisterImmediate rt rs literal) (.immediate rs rt literal)
  | loadStore {rt rs : Nat} {offset : Option String} (h : family.isLoadStore = true) :
    Places family (.loadStore rt offset rs) (.immediate rs rt (offset.getD "0"))
  | jump {address : String} (h : family = .jump) : Places family (.jump address) (.jump address)

variable {spec : Spec} {family : Family} {operands : Operands Nat} {placement : Placement}

namespace Operands

theorem exists_places_iff :
    (∃ placement, operands.Places family placement) ↔ operands.grammar.accepts family = true := by
  constructor
  · rintro ⟨placement, h⟩
    cases h with
    | threeRegister h | loadStore h => simp [grammar, Grammar.accepts, h]
    | twoRegister h | jumpRegister h | moveFrom h | shift h | immediate h | jump h =>
      rw [h]
      rfl
  · intro h
    cases operands with
    | threeRegister rd rs rt =>
      have hfamily : family.isRType = true ∧ family ≠ .shift := by
        simpa [grammar, Grammar.accepts] using h
      exact ⟨_, .threeRegister hfamily⟩
    | twoRegisterImmediate a b literal =>
      have hfamily : family = .immediate ∨ family = .shift := by
        simpa [grammar, Grammar.accepts] using h
      obtain hfamily | hfamily := hfamily
      · exact ⟨_, .immediate hfamily⟩
      · exact ⟨_, .shift hfamily⟩
    | loadStore a offset b => exact ⟨_, .loadStore h⟩
    | jump literal => exact ⟨_, .jump (of_decide_eq_true h)⟩
    | twoRegister a b => exact ⟨_, .twoRegister (of_decide_eq_true h)⟩
    | oneRegister a =>
      have hfamily : family = .jumpRegister ∨ family = .moveFrom := by
        simpa [grammar, Grammar.accepts] using h
      obtain hfamily | hfamily := hfamily
      · exact ⟨_, .jumpRegister hfamily⟩
      · exact ⟨_, .moveFrom hfamily⟩

namespace Places

variable {name : FieldName} (h : operands.Places family placement)

include h

theorem suits : placement.Suits family := by
  cases h with
  | threeRegister h | shift h | jump h => exact h
  | twoRegister h | jumpRegister h | moveFrom h => simp [Placement.Suits, Family.isRType, h]
  | immediate h => exact .inl h
  | loadStore h => exact .inr h

theorem map_number :
    (family.registerFields operands.grammar).map placement.number = operands.registers := by
  cases h with
  | threeRegister h | twoRegister h | loadStore h | jump h => rfl
  | jumpRegister h | moveFrom h | shift h | immediate h =>
    subst h
    rfl

theorem number_eq_zero (hname : name ∉ family.registerFields operands.grammar) :
    placement.number name = 0 := by
  cases h with
  | threeRegister h | twoRegister h | loadStore h | jump h =>
    simp only [Family.registerFields, Operands.grammar] at hname
    cases name <;> simp_all [Placement.number]
  | jumpRegister h | moveFrom h | shift h | immediate h =>
    simp only [h, Family.registerFields, Operands.grammar, reduceCtorEq, ↓reduceIte] at hname
    cases name <;> simp_all [Placement.number]

theorem mem_layout (hname : name ∈ family.registerFields operands.grammar) :
    name ∈ layout (some placement.format) ∧ name ∈ [FieldName.rs, .rt, .rd] := by
  cases h with
  | threeRegister h | twoRegister h | loadStore h | jump h =>
    simp only [Family.registerFields, Operands.grammar] at hname
    simp only [Placement.format, layout, List.mem_cons] at hname ⊢
    grind
  | jumpRegister h | moveFrom h | shift h | immediate h =>
    simp only [h, Family.registerFields, Operands.grammar, reduceCtorEq, ↓reduceIte] at hname
    simp only [Placement.format, layout, List.mem_cons] at hname ⊢
    grind

theorem literal?_eq :
    placement.literal? =
      if operands.grammar = .loadStore then some (operands.literal?.getD "0")
      else operands.literal? := by
  cases h <;> rfl

theorem readOption_eq (field : NumberField) :
    field.readOption placement.literal? = field.readOption operands.literal? := by
  rw [h.literal?_eq]
  split
  · cases operands.literal? with
    | none => exact NumberField.read_zero
    | some literal => rfl
  · rfl

end Places
end Operands

def Spec.content (spec : Spec) (placement : Placement) (number : Nat) : FieldName → Nat
  | .opcode => spec.opcode
  | .funct => spec.functionCode.getD 0
  | .rs => placement.number .rs
  | .rt => placement.number .rt
  | .rd => placement.number .rd
  | .shamt | .immediate | .jumpAddress | .unknown => number

theorem Spec.numberField_of_immediate (h : spec.family = .immediate ∨ spec.family.isLoadStore = true) :
    spec.numberField = spec.immediateField := by
  unfold numberField
  split
  · next hfamily => simp [hfamily, Family.isLoadStore] at h
  · next hfamily => simp [hfamily, Family.isLoadStore] at h
  · rfl

def Spec.word (spec : Spec) (placement : Placement) (number : FieldNumber) : Encoded where
  word := packLayout (some placement.format) (spec.content placement number.value)
  note := number.note

theorem Spec.map_buildImmediate {rs rt : Nat} {literal : String}
    (h : spec.family = .immediate ∨ spec.family.isLoadStore = true) :
    (spec.buildImmediate [.register rt, .register rs, .literal literal]).map spec.withOpcode
      = (spec.numberField.read literal).map (spec.word (.immediate rs rt literal)) := by
  have hshift : spec.family ≠ .shift := by
    intro hshift
    simp [hshift, Family.isLoadStore] at h
  show Except.map _ (if spec.family = .shift then _ else _) = _
  rw [spec.numberField_of_immediate h, if_neg hshift]
  cases spec.immediateField.read literal <;> rfl

theorem Spec.map_buildImmediate_of_shift {rd rt : Nat} {amount : String}
    (h : spec.family = .shift) :
    (spec.buildImmediate [.register rd, .register rt, .literal amount]).map spec.withOpcode
      = (spec.numberField.read amount).map (spec.word (.shift rt rd amount)) := by
  have hfield : spec.numberField = .shiftAmount := by
    simp [numberField, h]
  show Except.map _ (if spec.family = .shift then _ else _) = _
  rw [hfield, if_pos h]
  cases NumberField.shiftAmount.read amount <;> rfl

theorem Spec.map_buildJump {address : String} (spec : Spec) :
    (buildJump [.literal address]).map spec.withOpcode
      = (NumberField.jumpAddress.read address).map (spec.word (.jump address)) := by
  simp only [buildJump]
  cases NumberField.jumpAddress.read address <;> rfl

theorem Operands.Places.map_build (h : operands.Places spec.family placement) :
    (spec.build operands.grammar operands.filled).map spec.withOpcode
      = (spec.numberField.readOption placement.literal?).map (spec.word placement) := by
  cases h with
  | threeRegister h | twoRegister h => rfl
  | jumpRegister h | moveFrom h =>
    simp only [Spec.build, grammar, filled, Spec.buildOneRegister, h]
    rfl
  | shift h => exact spec.map_buildImmediate_of_shift h
  | immediate h => exact spec.map_buildImmediate (.inl h)
  | loadStore h => exact spec.map_buildImmediate (.inr h)
  | jump h =>
    have hfield : spec.numberField = .jumpAddress := by
      simp [Spec.numberField, h]
    rw [hfield]
    exact spec.map_buildJump

variable {number : FieldNumber}

theorem Spec.WellFormed.opcode_lt (h : spec.WellFormed) : spec.opcode < Bits.capacity 6 :=
  Nat.lt_of_le_of_lt h.1 (by decide)

theorem Spec.WellFormed.code_lt (h : spec.WellFormed) :
    spec.functionCode.getD 0 < Bits.capacity 6 := by
  have hcodes := h.2
  split at hcodes
  · obtain ⟨-, code, hle, hcode⟩ := hcodes
    rw [hcode, Option.getD_some]
    exact Nat.lt_of_le_of_lt hle (by decide)
  · rw [hcodes.2]
    decide

theorem NumberField.readOption_ne_internal {field : NumberField} {literal? : Option String}
    {what : String} : field.readOption literal? ≠ .error (.internal what) := by
  cases literal? with
  | none => exact nofun
  | some literal => exact field.read_ne_internal

theorem NumberField.lt_of_readOption {field : NumberField} {literal? : Option String}
    (h : field.readOption literal? = .ok number) : number.value < Bits.capacity field.width := by
  cases literal? with
  | none =>
    cases h
    exact Bits.capacity_pos field.width
  | some literal =>
    obtain ⟨_, -, -, hvalue⟩ := exists_reads_of_read h
    rw [hvalue]
    apply emod_capacity_lt

theorem Placement.Suits.eq_numberField_name_iff (h : placement.Suits spec.family)
    (hliteral : placement.literal? ≠ none) (name : FieldName) :
    name = spec.numberField.name ↔
      name ∈ layout (some placement.format) ∧ name ∉ [FieldName.opcode, .funct, .rs, .rt, .rd] := by
  rw [Spec.numberField_name]
  cases placement with
  | registers rs rt rd => exact absurd rfl hliteral
  | shift rt rd literal =>
    have hfamily : spec.family = .shift := h
    simp only [hfamily, Family.literalField, format]
    cases name <;> decide
  | immediate rs rt literal =>
    have hfamily : spec.family = .immediate ∨ spec.family.isLoadStore = true := h
    -- A load or a store has its offset where an immediate stands.
    have hfield : spec.family.literalField = .immediate := by
      revert hfamily
      cases spec.family <;> decide
    simp only [hfield, format]
    cases name <;> decide
  | jump literal =>
    have hfamily : spec.family = .jump := h
    simp only [hfamily, Family.literalField, format]
    cases name <;> decide

theorem Spec.content_lt (hwf : spec.WellFormed) (hsuits : placement.Suits spec.family)
    (hle : ∀ name, placement.number name ≤ 31)
    (hnumber : spec.numberField.readOption placement.literal? = .ok number) :
    ∀ name ∈ layout (some placement.format),
      spec.content placement number.value name < Bits.capacity name.width := by
  have hregister : ∀ name, placement.number name < Bits.capacity 5 := by
    intro name
    exact Nat.lt_of_le_of_lt (hle name) (by decide)
  intro name hname
  cases name with
  | opcode => exact hwf.opcode_lt
  | funct => exact hwf.code_lt
  | rs | rt | rd => apply hregister
  | shamt | immediate | jumpAddress | unknown =>
    by_cases hliteral : placement.literal? = none
    · rw [hliteral] at hnumber
      cases hnumber
      apply Bits.capacity_pos
    · have hlt := NumberField.lt_of_readOption hnumber
      rw [NumberField.width, ← (hsuits.eq_numberField_name_iff hliteral _).2 ⟨hname, by decide⟩] at hlt
      exact hlt

theorem Spec.isRType_family (spec : Spec) : spec.family.isRType = true ↔ spec.format = .r := by
  unfold Spec.family
  split
  · next hformat =>
    simp only [hformat, iff_true]
    repeat' split
    all_goals rfl
  · next hformat =>
    simp only [hformat, reduceCtorEq, iff_false]
    repeat' split
    all_goals decide
  · next hformat =>
    simp only [hformat, reduceCtorEq, iff_false]
    repeat' split
    all_goals decide

theorem Placement.Suits.format_eq_r_iff (h : placement.Suits spec.family) :
    placement.format = .r ↔ spec.format = .r := by
  rw [← Spec.isRType_family]
  cases placement with
  | registers rs rt rd => exact iff_of_true rfl h.1
  | shift rt rd literal =>
    have hfamily : spec.family = .shift := h
    simp [format, hfamily, Family.isRType]
  | immediate rs rt literal =>
    have hfamily : spec.family.isRType = false := by
      cases h with
      | inl h =>
        rw [h]
        rfl
      | inr h =>
        revert h
        cases spec.family <;> decide
    simp [format, hfamily]
  | jump literal =>
    have hfamily : spec.family = .jump := h
    simp [format, hfamily, Family.isRType]

theorem Placement.opcode_mem_layout (placement : Placement) :
    .opcode ∈ layout (some placement.format) := by
  cases placement with
  | registers | shift | immediate | jump => exact List.mem_cons_self

end MipsWord
