import MipsWord.Proofs.Tables.Lookup
import MipsWord.Tables.Load

namespace MipsWord

variable {specs : List Spec} {registers : List Register} {tables : Tables}

theorem Spec.pairwise_distinct_iff :
    specs.Pairwise Spec.Distinct ↔
      (specs.map (·.mnemonic)).Nodup ∧
        ((specs.filter (·.format = .r)).map (·.functionCode)).Nodup ∧
        ((specs.filter (·.format ≠ .r)).map (·.opcode)).Nodup := by
  simp only [List.Nodup, List.pairwise_map, List.pairwise_filter, decide_eq_true_eq,
    ← List.pairwise_and_iff]
  rfl

theorem Register.pairwise_distinct_iff :
    registers.Pairwise Register.Distinct ↔
      (registers.map (·.number)).Nodup ∧ (registers.map (·.name)).Nodup := by
  simp only [List.Nodup, List.pairwise_map, ← List.pairwise_and_iff]
  rfl

theorem Spec.forall_wellFormed_iff :
    (∀ spec ∈ specs, spec.WellFormed) ↔
      (∀ spec ∈ specs, spec.opcode ≤ 63) ∧
        (∀ spec ∈ specs, spec.format = .r →
          spec.opcode = 0 ∧ ∃ code ≤ 63, spec.functionCode = some code) ∧
        ∀ spec ∈ specs, spec.format ≠ .r → spec.opcode ≠ 0 ∧ spec.functionCode = none := by
  constructor
  · intro hwf
    refine ⟨fun spec hspec => (hwf spec hspec).1, ?_, ?_⟩
    · intro spec hspec hr
      have hcodes := (hwf spec hspec).2
      rwa [if_pos hr] at hcodes
    · intro spec hspec hr
      have hcodes := (hwf spec hspec).2
      rwa [if_neg hr] at hcodes
  · rintro ⟨hle, hr, hother⟩ spec hspec
    refine ⟨hle spec hspec, ?_⟩
    split
    · next hformat => exact hr spec hspec hformat
    · next hformat => exact hother spec hspec hformat

namespace Tables

theorem ofLists_eq_ok_iff :
    ofLists specs registers = .ok tables ↔ tables.specs = specs ∧ tables.registers = registers := by
  unfold ofLists
  split
  · next error hconflict =>
    simp only [reduceCtorEq, false_iff]
    rintro ⟨rfl, rfl⟩
    rw [firstConflict?_eq_none_iff.2 tables.consistent] at hconflict
    contradiction
  · next hconflict =>
    rw [Except.ok.injEq]
    constructor
    · rintro rfl
      exact ⟨rfl, rfl⟩
    · rintro ⟨rfl, rfl⟩
      rfl

theorem exists_ofLists_eq_ok_iff :
    (∃ tables, ofLists specs registers = .ok tables) ↔ Consistent specs registers := by
  simp only [ofLists_eq_ok_iff]
  constructor
  · rintro ⟨tables, rfl, rfl⟩
    exact tables.consistent
  · intro hconsistent
    exact ⟨⟨specs, registers, hconsistent⟩, rfl, rfl⟩

theorem ofLists_exact (specs : List Spec) (registers : List Register) :
    ((∃ tables, ofLists specs registers = .ok tables) ↔
      ((∀ spec ∈ specs, spec.opcode ≤ 63) ∧
        (∀ spec ∈ specs, spec.format = .r →
          spec.opcode = 0 ∧ ∃ code ≤ 63, spec.functionCode = some code) ∧
        ∀ spec ∈ specs, spec.format ≠ .r → spec.opcode ≠ 0 ∧ spec.functionCode = none) ∧
      ((specs.map (·.mnemonic)).Nodup ∧
        ((specs.filter (·.format = .r)).map (·.functionCode)).Nodup ∧
        ((specs.filter (·.format ≠ .r)).map (·.opcode)).Nodup) ∧
      (∀ register ∈ registers, register.number ≤ 31) ∧
      (registers.map (·.number)).Nodup ∧ (registers.map (·.name)).Nodup) ∧
    ∀ tables, ofLists specs registers = .ok tables →
      tables.specs = specs ∧ tables.registers = registers ∧
      (∀ mnemonic spec, tables.byMnemonic mnemonic = some spec ↔
        spec ∈ specs ∧ spec.mnemonic = mnemonic) ∧
      (∀ opcode spec, tables.byOpcode opcode = some spec ↔
        spec ∈ specs ∧ spec.format ≠ .r ∧ spec.opcode = opcode) ∧
      (∀ code spec, tables.byFunctionCode code = some spec ↔
        spec ∈ specs ∧ spec.format = .r ∧ spec.functionCode = some code) ∧
      ∀ number name,
        (tables.registerName number = some name ↔ ⟨number, name⟩ ∈ registers) ∧
        (tables.registerNumber name = some number ↔ ⟨number, name⟩ ∈ registers) := by
  constructor
  · rw [exists_ofLists_eq_ok_iff, ← Spec.forall_wellFormed_iff, ← Spec.pairwise_distinct_iff,
      ← Register.pairwise_distinct_iff]
    constructor
    · intro h
      exact ⟨h.wellFormed, h.specs_distinct, h.number_le, h.registers_distinct⟩
    · rintro ⟨hwf, hspecs, hle, hregisters⟩
      exact ⟨hwf, hspecs, hle, hregisters⟩
  · intro tables haccepted
    obtain ⟨rfl, rfl⟩ := ofLists_eq_ok_iff.1 haccepted
    refine ⟨rfl, rfl, ?_, ?_, ?_, ?_⟩
    · intro mnemonic spec
      exact byMnemonic_eq_some_iff
    · intro opcode spec
      exact byOpcode_eq_some_iff
    · intro code spec
      exact byFunctionCode_eq_some_iff
    · intro number name
      exact ⟨registerName_eq_some_iff, registerNumber_eq_some_iff⟩

theorem ofLists_exact_builtin :
    ofLists builtinSpecs builtinRegisters = .ok builtin ∧
      builtin.byOpcode 35 = some ⟨"lw", 35, none, .i, "Load Word"⟩ ∧
      builtin.byFunctionCode 35 = some ⟨"subu", 0, some 35, .r, "Subtract Unsigned"⟩ ∧
      builtin.registerNumber "sp" = some 29 := by
  have haccepted : ofLists builtinSpecs builtinRegisters = .ok builtin :=
    ofLists_eq_ok_iff.2 ⟨rfl, rfl⟩
  obtain ⟨-, -, -, hopcode, hcode, hregister⟩ :=
    (ofLists_exact builtinSpecs builtinRegisters).2 builtin haccepted
  refine ⟨haccepted, ?_, ?_, ?_⟩
  · rw [hopcode]
    decide
  · rw [hcode]
    decide
  · rw [(hregister 29 "sp").2]
    decide

end Tables
end MipsWord
