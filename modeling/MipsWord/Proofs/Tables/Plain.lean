import MipsWord.Instruction.Decode
import MipsWord.Proofs.Encode.Operands
import MipsWord.Proofs.Numeral.Format
import MipsWord.Tables.Load

namespace MipsWord

variable {tables : Tables} {spec : Spec} {number : Nat} {name : String}

structure Tables.Plain (tables : Tables) : Prop where
  mnemonic : ∀ spec ∈ tables.specs, IsPlain spec.mnemonic
  jump : ∀ spec ∈ tables.specs, spec.format = .j →
    spec.mnemonic ∉ Family.loadMnemonics ∧ spec.mnemonic ∉ Family.storeMnemonics

structure Tables.Named (tables : Tables) : Prop where
  exists_name : ∀ number ≤ 31, ∃ name, ⟨number, name⟩ ∈ tables.registers
  plain : ∀ register ∈ tables.registers, IsPlain register.name ∧ ¬ IsNumeral register.name

theorem builtin_plain : Tables.builtin.Plain := by
  constructor
  · decide +kernel
  · decide +kernel

theorem builtin_named : Tables.builtin.Named := by
  constructor
  · have hnames : ∀ number < 32, (Tables.builtin.registerName number).isSome = true := by
      decide +kernel
    intro number hle
    obtain ⟨name, hname⟩ := Option.isSome_iff_exists.1 (hnames number (by omega))
    exact ⟨name, Tables.registerName_eq_some_iff.1 hname⟩
  · decide +kernel

def Tables.token (tables : Tables) (mode : RegisterMode) (number : Nat) : String :=
  match mode with
  | .numbers => Base.decimal.format number
  | .names => (tables.registerName number).getD "unknown"

theorem token_names_of_unnamed (hnone : ∀ name, ⟨number, name⟩ ∉ tables.registers) :
    tables.token .names number = "unknown" := by
  have hname : tables.registerName number = none := by
    rw [Option.eq_none_iff_forall_ne_some]
    intro name hname
    exact hnone name (Tables.registerName_eq_some_iff.1 hname)
  rw [Tables.token, hname]
  rfl

theorem token_names_of_mem (hmem : ⟨number, name⟩ ∈ tables.registers) :
    tables.token .names number = name := by
  rw [Tables.token, Tables.registerName_eq_some_iff.2 hmem]
  rfl

theorem isDigit_decimal_format (n : Nat) : ∀ c ∈ (Base.decimal.format n).toList, c.isDigit = true := by
  intro c hc
  rw [← Base.isDigit_decimal]
  rw [Base.format, String.toList_ofList] at hc
  exact Base.isDigit_of_mem_toDigits hc

theorem isNumeral_decimal_format (n : Nat) : IsNumeral (Base.decimal.format n) := by
  refine ⟨?_, isDigit_decimal_format n⟩
  rw [Base.format, String.toList_ofList]
  exact Base.decimal.toDigits_ne_nil n

theorem token_spec {mode : RegisterMode} {n : Nat} (hnamed : mode = .names → tables.Named)
    (hle : n ≤ 31) : IsPlain (tables.token mode n) ∧ tables.resolve? (tables.token mode n) = some n := by
  rw [Tables.resolve?_eq_some_iff]
  cases mode with
  | numbers =>
    have hnumeral := isNumeral_decimal_format n
    refine ⟨⟨hnumeral.1, fun c hc => .inr (.inl (hnumeral.2 c hc))⟩, .number hnumeral hle ?_⟩
    rw [Tables.token, ← Base.toNat_decimal hnumeral.2, Base.format, String.toList_ofList]
    exact Base.toNat_toDigits .decimal n
  | names =>
    have hnamed := hnamed rfl
    obtain ⟨name, hmem⟩ := hnamed.exists_name n hle
    obtain ⟨hplain, hnumeral⟩ := hnamed.plain _ hmem
    rw [token_names_of_mem hmem]
    exact ⟨hplain, .name hnumeral hmem⟩

def Family.format : Family → Format
  | threeRegister | jumpRegister | shift | multDiv | moveFrom => .r
  | load | store | immediate => .i
  | jump => .j

/--
A J entry with the mnemonic of a load or a store. It is written with operands for which a J word has no field.
-/
def Spec.Stray (spec : Spec) : Prop :=
  spec.format = .j ∧ (spec.mnemonic ∈ Family.loadMnemonics ∨ spec.mnemonic ∈ Family.storeMnemonics)

instance : Decidable spec.Stray :=
  inferInstanceAs (Decidable (_ ∧ (_ ∨ _)))

theorem Spec.format_family_iff (spec : Spec) : spec.family.format = spec.format ↔ ¬ spec.Stray := by
  unfold family Stray
  cases hformat : spec.format with
  | r | i =>
    simp only [reduceCtorEq, false_and, not_false_eq_true, iff_true]
    repeat' split
    all_goals rfl
  | j =>
    dsimp only
    split
    · next hload => simp [hload, Family.format]
    · next hload =>
      split
      · next hstore => simp [hstore, Family.format]
      · next hstore => simp [hload, hstore, Family.format]

theorem format_family (hplain : tables.Plain) (hspec : spec ∈ tables.specs) :
    spec.family.format = spec.format := by
  rw [Spec.format_family_iff]
  rintro ⟨hformat, hload | hstore⟩
  · exact (hplain.jump spec hspec hformat).1 hload
  · exact (hplain.jump spec hspec hformat).2 hstore

theorem Family.textOperands_mem_layout (family : Family) :
    ∀ name ∈ family.textOperands, name ∈ layout (some family.format) := by
  cases family <;> decide

end MipsWord
