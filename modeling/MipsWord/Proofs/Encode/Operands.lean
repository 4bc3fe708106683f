import MipsWord.Encode.Basic
import MipsWord.Proofs.Numeral.Digits
import MipsWord.Proofs.Tables.Lookup

namespace MipsWord
namespace Operands

variable {ρ σ : Type}

def replace? (f : ρ → Option σ) : Operands ρ → Option (Operands σ)
  | threeRegister a b c =>
    match f a, f b, f c with
    | some a, some b, some c => some (threeRegister a b c)
    | _, _, _ => none
  | twoRegisterImmediate a b literal =>
    match f a, f b with
    | some a, some b => some (twoRegisterImmediate a b literal)
    | _, _ => none
  | loadStore a offset b =>
    match f a, f b with
    | some a, some b => some (loadStore a offset b)
    | _, _ => none
  | jump literal => some (jump literal)
  | twoRegister a b =>
    match f a, f b with
    | some a, some b => some (twoRegister a b)
    | _, _ => none
  | oneRegister a => (f a).map oneRegister

theorem replace?_eq_none_iff {f : ρ → Option σ} {operands : Operands ρ} :
    operands.replace? f = none ↔ ∃ a ∈ operands.registers, f a = none := by
  cases operands with
  | threeRegister a b c =>
    cases ha : f a <;> cases hb : f b <;> cases hc : f c <;> simp [replace?, registers, ha, hb, hc]
  | twoRegisterImmediate a b literal =>
    cases ha : f a <;> cases hb : f b <;> simp [replace?, registers, ha, hb]
  | loadStore a offset b =>
    cases ha : f a <;> cases hb : f b <;> simp [replace?, registers, ha, hb]
  | jump literal => simp [replace?, registers]
  | twoRegister a b =>
    cases ha : f a <;> cases hb : f b <;> simp [replace?, registers, ha, hb]
  | oneRegister a => simp [replace?, registers]

theorem of_replace?_eq_some {f : ρ → Option σ} {operands : Operands ρ} {new : Operands σ}
    (h : operands.replace? f = some new) :
    new.grammar = operands.grammar ∧ new.literal? = operands.literal? ∧
      operands.registers.map f = new.registers.map some := by
  cases operands with
  | jump literal =>
    simp only [replace?, Option.some.injEq] at h
    subst h
    simp [grammar, literal?, registers]
  | oneRegister a =>
    obtain ⟨b, hb, rfl⟩ := Option.map_eq_some_iff.1 h
    simp [grammar, literal?, registers, hb]
  | threeRegister | twoRegisterImmediate | loadStore | twoRegister =>
    simp only [replace?] at h
    split at h
    · simp only [Option.some.injEq] at h
      subst h
      simp_all [grammar, literal?, registers]
    · contradiction

def filled : Operands Nat → List Operand
  | threeRegister a b c => [.register a, .register b, .register c]
  | twoRegisterImmediate a b literal => [.register a, .register b, .literal literal]
  | loadStore a offset b => [.register a, .literal (offset.getD "0"), .register b]
  | jump literal => [.literal literal]
  | twoRegister a b => [.register a, .register b]
  | oneRegister a => [.register a]

variable {f : String → Option Nat} {operands : Operands String} {numbers : Operands Nat}

theorem exists_fill_eq (f : String → Option Nat) (operands : Operands String) :
    ∃ filled, fill f operands.grammar.slots operands.tokens =
      .ok { operands := filled, unknown := operands.registers.filter fun a => (f a).isNone } := by
  cases operands with
  | threeRegister a b c =>
    cases ha : f a <;> cases hb : f b <;> cases hc : f c <;>
      simp [grammar, Grammar.slots, tokens, fill, registers, Except.map, Filling.addRegister, ha, hb, hc]
  | twoRegisterImmediate a b literal | loadStore a literal b | twoRegister a b =>
    cases ha : f a <;> cases hb : f b <;>
      simp [grammar, Grammar.slots, tokens, fill, registers, Except.map, Filling.addRegister,
        Filling.addLiteral, ha, hb]
  | jump literal => exact ⟨_, rfl⟩
  | oneRegister a =>
    cases ha : f a <;>
      simp [grammar, Grammar.slots, tokens, fill, registers, Except.map, Filling.addRegister, ha]

theorem fill_eq_of_replace? (h : operands.replace? f = some numbers) :
    fill f operands.grammar.slots operands.tokens
      = .ok { operands := numbers.filled, unknown := [] } := by
  cases operands with
  | jump literal =>
    cases h
    rfl
  | oneRegister a =>
    obtain ⟨number, ha, rfl⟩ := Option.map_eq_some_iff.1 h
    simp [grammar, Grammar.slots, tokens, fill, Except.map, Filling.addRegister, ha, filled]
  | threeRegister | twoRegisterImmediate | loadStore | twoRegister =>
    simp only [replace?] at h
    split at h
    · cases h
      simp_all [grammar, Grammar.slots, tokens, fill, Except.map, Filling.addRegister,
        Filling.addLiteral, filled]
    · contradiction

end Operands

variable {tables : Tables} {register : String} {number : Nat}

def IsNumeral (text : String) : Prop :=
  text.toList ≠ [] ∧ ∀ c ∈ text.toList, c.isDigit = true

instance {text : String} : Decidable (IsNumeral text) :=
  decidable_of_iff ((!text.toList.isEmpty && text.toList.all Char.isDigit) = true)
    (by simp [IsNumeral])

/--
What a register stands for. Leading zeros are allowed in a number, and a name of digits only is never
looked up.
-/
inductive Tables.Denotes (tables : Tables) (register : String) (number : Nat) : Prop where
  | number (hnumeral : IsNumeral register) (hle : number ≤ 31)
      (hvalue : Nat.ofDigitChars 10 register.toList 0 = number)
  | name (hnumeral : ¬ IsNumeral register) (hmem : ⟨number, register⟩ ∈ tables.registers)

theorem Tables.resolve?_eq_some_iff :
    tables.resolve? register = some number ↔ tables.Denotes register number := by
  have hcond : (!register.toList.isEmpty && register.toList.all Base.decimal.isDigit) = true
      ↔ IsNumeral register := by
    simp [IsNumeral, Base.isDigit_decimal]
  unfold resolve?
  dsimp only
  split
  · next h =>
    rw [hcond] at h
    rw [Base.toNat_decimal h.2]
    constructor
    · intro hnumber
      split at hnumber
      · next hlt =>
        simp only [Option.some.injEq] at hnumber
        exact .number h (by omega) hnumber
      · contradiction
    · intro hdenotes
      cases hdenotes with
      | number hnumeral hle hvalue =>
        rw [hvalue, if_pos]
        omega
      | name hnumeral hmem => exact absurd h hnumeral
  · next h =>
    rw [hcond] at h
    rw [registerNumber_eq_some_iff]
    constructor
    · intro hmem
      exact .name h hmem
    · intro hdenotes
      cases hdenotes with
      | number hnumeral => exact absurd hnumeral h
      | name hnumeral hmem => exact hmem

end MipsWord
