import MipsWord.Proofs.Lists
import MipsWord.Tables.Basic

namespace MipsWord

namespace Tables

variable {tables : Tables} {spec : Spec} {register : Register} {mnemonic name : String}
  {opcode code number : Nat}

theorem byMnemonic_eq_some_iff :
    tables.byMnemonic mnemonic = some spec ↔ spec ∈ tables.specs ∧ spec.mnemonic = mnemonic := by
  apply find?_eq_some_iff_of_key
  apply tables.consistent.specs_distinct.imp
  intro a b hdistinct
  exact hdistinct.1

theorem byMnemonic_eq_none_iff :
    tables.byMnemonic mnemonic = none ↔ ∀ spec ∈ tables.specs, spec.mnemonic ≠ mnemonic := by
  simp [byMnemonic]

theorem byFunctionCode_eq_some_iff :
    tables.byFunctionCode code = some spec ↔
      spec ∈ tables.specs ∧ spec.format = .r ∧ spec.functionCode = some code := by
  -- The lookup goes by the code alone, but no other entries have one.
  have hformat : ∀ s ∈ tables.specs, s.functionCode = some code → s.format = .r := by
    intro s hs hcode
    have hwf := (tables.consistent.wellFormed s hs).2
    split at hwf
    · assumption
    · rw [hwf.2] at hcode
      contradiction
  unfold byFunctionCode
  rw [find?_eq_some_iff_of_pairwise]
  · simp only [decide_eq_true_eq]
    constructor
    · rintro ⟨hs, hcode⟩
      exact ⟨hs, hformat spec hs hcode, hcode⟩
    · rintro ⟨hs, -, hcode⟩
      exact ⟨hs, hcode⟩
  · apply tables.consistent.specs_distinct.imp_of_mem
    intro a b ha hb hdistinct
    simp only [decide_eq_true_eq, decide_eq_false_iff_not]
    intro hacode hbcode
    apply hdistinct.2.1 (hformat a ha hacode) (hformat b hb hbcode)
    rw [hacode, hbcode]

theorem byOpcode_eq_some_iff :
    tables.byOpcode opcode = some spec ↔
      spec ∈ tables.specs ∧ spec.format ≠ .r ∧ spec.opcode = opcode := by
  unfold byOpcode
  split
  · next hzero =>
    subst hzero
    -- Opcode 0 is left to the R entries.
    simp only [reduceCtorEq, false_iff]
    rintro ⟨hs, hformat, hopcode⟩
    have hwf := (tables.consistent.wellFormed spec hs).2
    rw [if_neg hformat] at hwf
    exact hwf.1 hopcode
  · rw [find?_eq_some_iff_of_pairwise]
    · simp
    · apply tables.consistent.specs_distinct.imp
      intro a b hdistinct
      simp only [Bool.and_eq_true, decide_eq_true_eq, Bool.and_eq_false_iff,
        decide_eq_false_iff_not]
      rintro ⟨haformat, rfl⟩
      by_cases hbformat : b.format ≠ .r
      · right
        intro hb
        exact hdistinct.2.2 haformat hbformat hb.symm
      · left
        exact hbformat

theorem registerNumber_eq_some_iff :
    tables.registerNumber name = some number ↔ ⟨number, name⟩ ∈ tables.registers := by
  have hnames : tables.registers.Pairwise fun a b => a.name ≠ b.name := by
    apply tables.consistent.registers_distinct.imp
    intro a b hdistinct
    exact hdistinct.2
  unfold registerNumber
  simp only [Option.map_eq_some_iff, find?_eq_some_iff_of_key hnames]
  constructor
  · rintro ⟨r, ⟨hr, rfl⟩, rfl⟩
    exact hr
  · intro h
    exact ⟨_, ⟨h, rfl⟩, rfl⟩

theorem registerName_eq_some_iff :
    tables.registerName number = some name ↔ ⟨number, name⟩ ∈ tables.registers := by
  have hnumbers : tables.registers.Pairwise fun a b => a.number ≠ b.number := by
    apply tables.consistent.registers_distinct.imp
    intro a b hdistinct
    exact hdistinct.1
  unfold registerName
  simp only [Option.map_eq_some_iff, find?_eq_some_iff_of_key hnumbers]
  constructor
  · rintro ⟨r, ⟨hr, rfl⟩, rfl⟩
    exact hr
  · intro h
    exact ⟨_, ⟨h, rfl⟩, rfl⟩

theorem name_unique {name₁ name₂ : String} (h₁ : ⟨number, name₁⟩ ∈ tables.registers)
    (h₂ : ⟨number, name₂⟩ ∈ tables.registers) : name₁ = name₂ := by
  rw [← registerName_eq_some_iff] at h₁ h₂
  rw [h₁, Option.some.injEq] at h₂
  exact h₂

theorem number_unique {number₁ number₂ : Nat} (h₁ : ⟨number₁, name⟩ ∈ tables.registers)
    (h₂ : ⟨number₂, name⟩ ∈ tables.registers) : number₁ = number₂ := by
  rw [← registerNumber_eq_some_iff] at h₁ h₂
  rw [h₁, Option.some.injEq] at h₂
  exact h₂

end Tables
end MipsWord
