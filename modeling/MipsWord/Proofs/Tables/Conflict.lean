import MipsWord.Proofs.Tables.Scan

namespace MipsWord

variable {earlier : List Spec} {spec : Spec} {register : Register} {error : TableError}

inductive Spec.Refused (earlier : List Spec) (spec : Spec) : TableError → Prop where
  | opcodeRange (h : 63 < spec.opcode) :
    Refused earlier spec (.opcodeRange spec.mnemonic spec.opcode)
  | functionCodeRange {code : Nat} (hr : spec.format = .r) (hopcode : spec.opcode = 0)
      (hcode : spec.functionCode = some code) (h : 63 < code) :
    Refused earlier spec (.functionCodeRange spec.mnemonic code)
  | malformedR (hle : spec.opcode ≤ 63) (hr : spec.format = .r)
      (h : spec.opcode ≠ 0 ∨ spec.functionCode = none) :
    Refused earlier spec (.malformedR spec.mnemonic)
  | unexpectedFunctionCode (hle : spec.opcode ≤ 63) (hr : spec.format ≠ .r)
      (h : spec.functionCode ≠ none) :
    Refused earlier spec (.unexpectedFunctionCode spec.mnemonic)
  | reservedOpcode (hr : spec.format ≠ .r) (hcode : spec.functionCode = none) (h : spec.opcode = 0) :
    Refused earlier spec (.reservedOpcode spec.mnemonic)
  | duplicateMnemonic (hcodes : spec.WellFormed) (h : ∃ s ∈ earlier, s.mnemonic = spec.mnemonic) :
    Refused earlier spec (.duplicateMnemonic spec.mnemonic)
  | duplicateFunctionCode {code : Nat} {first : Spec} (hcodes : spec.WellFormed)
      (hnew : ∀ s ∈ earlier, s.mnemonic ≠ spec.mnemonic) (hr : spec.format = .r)
      (hcode : spec.functionCode = some code)
      (h : (earlier.filter fun s => s.format = .r ∧ s.functionCode = some code) = [first]) :
    Refused earlier spec (.duplicateFunctionCode code first.mnemonic spec.mnemonic)
  | duplicateOpcode {first : Spec} (hcodes : spec.WellFormed)
      (hnew : ∀ s ∈ earlier, s.mnemonic ≠ spec.mnemonic) (hr : spec.format ≠ .r)
      (h : (earlier.filter fun s => s.format ≠ .r ∧ s.opcode = spec.opcode) = [first]) :
    Refused earlier spec (.duplicateOpcode spec.opcode first.mnemonic spec.mnemonic)

inductive Register.Refused (earlier : List Register) (register : Register) : TableError → Prop where
  | registerRange (h : 31 < register.number) :
    Refused earlier register (.registerRange register.name register.number)
  | duplicateNumber (hle : register.number ≤ 31) (h : ∃ r ∈ earlier, r.number = register.number) :
    Refused earlier register (.duplicateRegisterNumber register.number)
  | duplicateName (hle : register.number ≤ 31) (hnew : ∀ r ∈ earlier, r.number ≠ register.number)
      (h : ∃ r ∈ earlier, r.name = register.name) :
    Refused earlier register (.duplicateRegisterName register.name)

theorem Register.conflict?_eq_some_iff {earlier : List Register} :
    register.conflict? earlier = some error ↔ register.Refused earlier error := by
  constructor
  · intro h
    unfold conflict? at h
    split at h
    · next hrange =>
      cases h
      exact .registerRange hrange
    · next hrange =>
      have hle : register.number ≤ 31 := Nat.not_lt.1 hrange
      split at h
      · next hnumber =>
        cases h
        exact .duplicateNumber hle (by simpa using hnumber)
      · next hnumber =>
        split at h
        · next hname =>
          cases h
          exact .duplicateName hle (by simpa using hnumber) (by simpa using hname)
        · contradiction
  · intro h
    unfold conflict?
    cases h with
    | registerRange h => rw [if_pos h]
    | duplicateNumber hle h => rw [if_neg (Nat.not_lt.2 hle), if_pos (by simpa using h)]
    | duplicateName hle hnew h =>
      rw [if_neg (Nat.not_lt.2 hle), if_neg (by simpa using hnew), if_pos (by simpa using h)]

theorem Register.Refused.message_eq {earlier : List Register} (h : register.Refused earlier error)
    (hle : register.number ≤ 31) :
    error.message = "register $" ++
      (if ∃ r ∈ earlier, r.number = register.number then toString register.number
        else register.name) ++ " is declared twice" := by
  cases h with
  | registerRange h => omega
  | duplicateNumber _ h =>
    rw [if_pos h]
    rfl
  | duplicateName _ hnew _ =>
    rw [if_neg]
    · rfl
    · rintro ⟨r, hr, hnumber⟩
      exact hnew r hr hnumber

namespace Spec

theorem find?_functionCode_iff {first : Spec} (h : earlier.Pairwise Distinct) (code : Option Nat) :
    (earlier.find? fun s => s.format = .r ∧ s.functionCode = code) = some first ↔
      (earlier.filter fun s => s.format = .r ∧ s.functionCode = code) = [first] := by
  apply find?_eq_some_iff_filter_eq
  apply h.imp
  intro a b hdistinct
  exact hdistinct.2.1

theorem find?_opcode_iff {first : Spec} (h : earlier.Pairwise Distinct) (opcode : Nat) :
    (earlier.find? fun s => s.format ≠ .r ∧ s.opcode = opcode) = some first ↔
      (earlier.filter fun s => s.format ≠ .r ∧ s.opcode = opcode) = [first] := by
  apply find?_eq_some_iff_filter_eq
  apply h.imp
  intro a b hdistinct
  exact hdistinct.2.2

theorem findSome?_clash?_of_r (hr : spec.format = .r) (earlier : List Spec) :
    earlier.findSome? (clash? · spec) =
      (earlier.find? fun s => s.format = .r ∧ s.functionCode = spec.functionCode).map fun s =>
        .duplicateFunctionCode (spec.functionCode.getD 0) s.mnemonic spec.mnemonic := by
  have hclash : (clash? · spec) = fun s =>
      if s.format = .r ∧ s.functionCode = spec.functionCode then
        some (.duplicateFunctionCode (spec.functionCode.getD 0) s.mnemonic spec.mnemonic)
      else none := by
    funext s
    simp [clash?, hr]
  rw [hclash, findSome?_ite]

theorem findSome?_clash?_of_ne_r (hr : spec.format ≠ .r) (earlier : List Spec) :
    earlier.findSome? (clash? · spec) =
      (earlier.find? fun s => s.format ≠ .r ∧ s.opcode = spec.opcode).map fun s =>
        .duplicateOpcode spec.opcode s.mnemonic spec.mnemonic := by
  have hclash : (clash? · spec) = fun s =>
      if s.format ≠ .r ∧ s.opcode = spec.opcode then
        some (.duplicateOpcode spec.opcode s.mnemonic spec.mnemonic)
      else none := by
    funext s
    simp [clash?, hr]
  rw [hclash, findSome?_ite]

theorem refused_of_fault? (h : spec.fault? = some error) : spec.Refused earlier error := by
  unfold fault? at h
  split at h
  · next hrange =>
    cases h
    exact .opcodeRange hrange
  · next hrange =>
    have hle : spec.opcode ≤ 63 := Nat.not_lt.1 hrange
    split at h
    · next code hr hcode =>
      split at h
      · next hopcode =>
        cases h
        exact .malformedR hle hr (.inl hopcode)
      · next hopcode =>
        split at h
        · next hlt =>
          cases h
          exact .functionCodeRange hr (Decidable.not_not.1 hopcode) hcode hlt
        · contradiction
    · next hr hcode =>
      cases h
      exact .malformedR hle hr (.inr hcode)
    · next code hcode hr =>
      cases h
      exact .unexpectedFunctionCode hle hr (by simp [hcode])
    · next hcode hr =>
      split at h
      · next hopcode =>
        cases h
        exact .reservedOpcode hr hcode hopcode
      · contradiction

theorem conflict?_of_fault? (h : spec.fault? = some error) : conflict? earlier spec = some error := by
  unfold conflict?
  rw [h]

theorem conflict?_of_wellFormed (hcodes : spec.WellFormed) :
    conflict? earlier spec =
      if earlier.any (·.mnemonic = spec.mnemonic) then some (.duplicateMnemonic spec.mnemonic)
      else earlier.findSome? (clash? · spec) := by
  unfold conflict?
  rw [fault?_eq_none_iff.2 hcodes]

theorem refused_of_conflict? (hearlier : earlier.Pairwise Distinct)
    (h : conflict? earlier spec = some error) : spec.Refused earlier error := by
  cases hfault : spec.fault? with
  | some fault =>
    rw [conflict?_of_fault? hfault] at h
    cases h
    exact refused_of_fault? hfault
  | none =>
    have hcodes := fault?_eq_none_iff.1 hfault
    rw [conflict?_of_wellFormed hcodes] at h
    split at h
    · next hmnemonic =>
      cases h
      exact .duplicateMnemonic hcodes (by simpa using hmnemonic)
    · next hmnemonic =>
      have hnew : ∀ s ∈ earlier, s.mnemonic ≠ spec.mnemonic := by simpa using hmnemonic
      by_cases hr : spec.format = .r
      · rw [findSome?_clash?_of_r hr, Option.map_eq_some_iff] at h
        obtain ⟨first, hfirst, rfl⟩ := h
        rw [find?_functionCode_iff hearlier] at hfirst
        have hcode := hcodes.2
        rw [if_pos hr] at hcode
        obtain ⟨-, code, -, hcode⟩ := hcode
        rw [hcode] at hfirst ⊢
        exact .duplicateFunctionCode hcodes hnew hr hcode hfirst
      · rw [findSome?_clash?_of_ne_r hr, Option.map_eq_some_iff] at h
        obtain ⟨first, hfirst, rfl⟩ := h
        rw [find?_opcode_iff hearlier] at hfirst
        exact .duplicateOpcode hcodes hnew hr hfirst

theorem Refused.conflict?_eq (hearlier : earlier.Pairwise Distinct) (h : spec.Refused earlier error) :
    conflict? earlier spec = some error := by
  cases h with
  | opcodeRange h =>
    apply conflict?_of_fault?
    rw [fault?, if_pos h]
  | functionCodeRange hr hopcode hcode h =>
    apply conflict?_of_fault?
    simp [fault?, hr, hopcode, hcode, h]
  | malformedR hle hr h =>
    apply conflict?_of_fault?
    rw [fault?, if_neg (Nat.not_lt.2 hle), hr]
    cases hcode : spec.functionCode with
    | none => rfl
    | some code =>
      rw [hcode] at h
      exact if_pos (h.resolve_right (Option.some_ne_none code))
  | unexpectedFunctionCode hle hr h =>
    apply conflict?_of_fault?
    obtain ⟨code, hcode⟩ := Option.ne_none_iff_exists'.1 h
    rw [fault?, if_neg (Nat.not_lt.2 hle), hcode]
    cases hformat : spec.format with
    | r => exact absurd hformat hr
    | i | j => rfl
  | reservedOpcode hr hcode h =>
    apply conflict?_of_fault?
    rw [fault?, if_neg (by omega), hcode]
    cases hformat : spec.format with
    | r => exact absurd hformat hr
    | i | j => exact if_pos h
  | duplicateMnemonic hcodes h =>
    rw [conflict?_of_wellFormed hcodes, if_pos]
    simpa using h
  | duplicateFunctionCode hcodes hnew hr hcode h =>
    rw [conflict?_of_wellFormed hcodes, if_neg (by simpa using hnew), findSome?_clash?_of_r hr, hcode,
      (find?_functionCode_iff hearlier _).2 h]
    rfl
  | duplicateOpcode hcodes hnew hr h =>
    rw [conflict?_of_wellFormed hcodes, if_neg (by simpa using hnew), findSome?_clash?_of_ne_r hr,
      (find?_opcode_iff hearlier _).2 h]
    rfl

theorem conflict?_eq_some_iff (hearlier : earlier.Pairwise Distinct) :
    conflict? earlier spec = some error ↔ spec.Refused earlier error :=
  ⟨refused_of_conflict? hearlier, Refused.conflict?_eq hearlier⟩

end Spec

end MipsWord
