import MipsWord.Proofs.Encode.Word
import MipsWord.Proofs.Instruction.Assembly
import MipsWord.Proofs.Tables.Plain

namespace MipsWord

variable {tables : Tables} {spec : Spec} {number : FieldName → Nat} {literal : String}

namespace Family

def placement (family : Family) (number : FieldName → Nat) (literal : String) : Placement :=
  match family with
  | threeRegister => .registers (number .rs) (number .rt) (number .rd)
  | jumpRegister => .registers (number .rs) 0 0
  | shift => .shift (number .rt) (number .rd) literal
  | multDiv => .registers (number .rs) (number .rt) 0
  | moveFrom => .registers 0 0 (number .rd)
  | load | store | immediate => .immediate (number .rs) (number .rt) literal
  | jump => .jump literal

theorem replace?_write {ρ σ : Type} {f : ρ → Option σ} {register : FieldName → ρ}
    {number : FieldName → σ} (family : Family)
    (h : ∀ name ∈ [FieldName.rs, .rt, .rd], f (register name) = some (number name)) :
    (family.write register literal).replace? f = some (family.write number literal) := by
  have hrs := h .rs (by simp)
  have hrt := h .rt (by simp)
  have hrd := h .rd (by simp)
  cases family <;> simp [write, Operands.replace?, hrs, hrt, hrd]

theorem places_write (family : Family) :
    (family.write number literal).Places family (family.placement number literal) := by
  cases family <;> constructor <;> decide

end Family

theorem packLayout_congr {format : Option Format} {f g : FieldName → Nat}
    (h : ∀ name ∈ layout format, f name = g name) : packLayout format f = packLayout format g := by
  unfold packLayout
  rw [List.map_congr_left]
  intro name hname
  rw [h name hname]

theorem content_placement {family : Family} {value : Nat} (hopcode : number .opcode = spec.opcode)
    (hfunct : family.format = .r → spec.functionCode = some (number .funct))
    (hvalue : ∀ name ∈ layout (some family.format),
      name ∉ [FieldName.opcode, .funct, .rs, .rt, .rd] →
        value = if family.role name = .unused then 0 else number name) :
    ∀ name ∈ layout (some family.format),
      spec.content (family.placement number literal) value name =
        if family.role name = .unused then 0 else number name := by
  intro name hname
  cases name with
  | opcode =>
    have hrole : family.role .opcode ≠ .unused := by
      cases family <;> decide
    rw [if_neg hrole, hopcode]
    rfl
  | funct =>
    have hrole : family.role .funct ≠ .unused := by
      cases family <;> decide
    have hr : family.format = .r := by
      cases family <;> first | rfl | exact absurd hname (by decide)
    rw [if_neg hrole, Spec.content, hfunct hr, Option.getD_some]
  -- A register that the family has no use for is placed as zero.
  | rs | rt | rd => cases family <;> rfl
  | shamt | immediate | jumpAddress | unknown => exact hvalue _ hname (by decide)

theorem exists_readOption_placement
    (hliteral : spec.numberField.read literal =
      .ok { value := number spec.numberField.name, note := none }) :
    ∃ value, spec.numberField.readOption (spec.family.placement number literal).literal? =
        .ok { value, note := none } ∧
      ∀ name ∈ layout (some spec.family.format), name ∉ [FieldName.opcode, .funct, .rs, .rt, .rd] →
        value = if spec.family.role name = .unused then 0 else number name := by
  cases hfamily : spec.family with
  | threeRegister | jumpRegister | multDiv | moveFrom =>
    refine ⟨0, rfl, ?_⟩
    intro name hname hother
    cases name <;> first | rfl | exact absurd (by decide) hother
  | shift | load | store | immediate | jump =>
    refine ⟨_, hliteral, ?_⟩
    intro name hname hother
    rw [spec.numberField_name, hfamily]
    cases name <;> first | rfl | exact absurd (by decide) hother | exact absurd hname (by decide)

theorem encode_write {register : FieldName → String} (hspec : spec ∈ tables.specs)
    (hformat : spec.family.format = spec.format)
    (hregister : ∀ name ∈ [FieldName.rs, .rt, .rd],
      tables.resolve? (register name) = some (number name))
    (hliteral : spec.numberField.read literal =
      .ok { value := number spec.numberField.name, note := none })
    (hopcode : number .opcode = spec.opcode)
    (hfunct : spec.format = .r → spec.functionCode = some (number .funct)) :
    (Line.mk spec.mnemonic (spec.family.write register literal)).encode tables =
      .ok
        { word := packLayout (some spec.format) fun name =>
            if spec.family.role name = .unused then 0 else number name
          note := none } := by
  have hplacement : (spec.family.placement number literal).format = spec.family.format := by
    cases spec.family <;> rfl
  obtain ⟨value, hread, hvalue⟩ := exists_readOption_placement hliteral
  have hcontent : ∀ name ∈ layout (some spec.family.format),
      spec.content (spec.family.placement number literal) value name =
        if spec.family.role name = .unused then 0 else number name := by
    apply content_placement hopcode _ hvalue
    rw [hformat]
    exact hfunct
  rw [encode_of_places (Tables.byMnemonic_eq_some_iff.2 ⟨hspec, rfl⟩)
    (spec.family.replace?_write hregister) spec.family.places_write, hread]
  simp only [Except.map, Spec.word]
  rw [hplacement, packLayout_congr hcontent, hformat]

end MipsWord
