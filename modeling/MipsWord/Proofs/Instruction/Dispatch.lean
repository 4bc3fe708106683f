import MipsWord.Proofs.Instruction.Assembly
import MipsWord.Tables.Load

namespace MipsWord

variable {tables : Tables} {settings : Settings} {spec : Spec} {bits : List Char} {word : String}
  {name : FieldName} {format : Format}

def opcodeOf (bits : List Char) : Nat :=
  Bits.toNat (bits.take 6)

theorem toNat_slice_opcode (hle : 6 ≤ bits.length) :
    Bits.toNat (FieldName.opcode.slice (Bits.toWord bits)) = opcodeOf bits := by
  rw [← value_take_opcode hle]
  apply Bits.value_eq_toNat
  rw [List.length_take]
  exact Nat.le_trans (Nat.min_le_left _ _) FieldName.opcode.width_le

theorem formatOf?_of_lt (hlt : bits.length < 6) : tables.formatOf? bits = none := by
  unfold Tables.formatOf?
  exact if_pos hlt

theorem formatOf?_eq (hle : 6 ≤ bits.length) :
    tables.formatOf? bits =
      if opcodeOf bits = 0 then some .r else (tables.byOpcode (opcodeOf bits)).map (·.format) := by
  have hlong : ¬ bits.length < FieldName.opcode.width := Nat.not_lt.2 hle
  unfold Tables.formatOf?
  rw [if_neg hlong, value_take_opcode hle, toNat_slice_opcode hle]
  split
  · next hzero => rw [if_pos hzero]
  · next hzero => rw [if_neg hzero]

theorem formatOf?_eq_r_iff (hle : 6 ≤ bits.length) :
    tables.formatOf? bits = some .r ↔ opcodeOf bits = 0 := by
  rw [formatOf?_eq hle]
  split
  · next hzero => simp [hzero]
  · next hzero =>
    simp only [Option.map_eq_some_iff, Tables.byOpcode_eq_some_iff, hzero, iff_false]
    rintro ⟨spec, ⟨-, hformat, -⟩, hr⟩
    exact hformat hr

theorem formatOf?_eq_some_iff (hle : 6 ≤ bits.length) (hformat : format ≠ .r) :
    tables.formatOf? bits = some format ↔
      ∃ spec ∈ tables.specs, spec.format = format ∧ spec.opcode = opcodeOf bits := by
  constructor
  · intro hfound
    have hzero : opcodeOf bits ≠ 0 := by
      intro hzero
      rw [(formatOf?_eq_r_iff hle).2 hzero, Option.some.injEq] at hfound
      exact hformat hfound.symm
    rw [formatOf?_eq hle, if_neg hzero] at hfound
    obtain ⟨spec, hspec, rfl⟩ := Option.map_eq_some_iff.1 hfound
    obtain ⟨hmem, -, hopcode⟩ := Tables.byOpcode_eq_some_iff.1 hspec
    exact ⟨spec, hmem, rfl, hopcode⟩
  · rintro ⟨spec, hmem, rfl, hopcode⟩
    apply formatOf?_of_coded hmem hle
    refine ⟨?_, fun hr => absurd hr hformat⟩
    rw [toNat_slice_opcode hle, hopcode]

theorem formatOf?_eq_none_iff (hle : 6 ≤ bits.length) :
    tables.formatOf? bits = none ↔
      opcodeOf bits ≠ 0 ∧ ∀ spec ∈ tables.specs, spec.format ≠ .r → spec.opcode ≠ opcodeOf bits := by
  rw [formatOf?_eq hle]
  split
  · next hzero => simp [hzero]
  · next hzero =>
    rw [Option.map_eq_none_iff, Option.eq_none_iff_forall_ne_some]
    simp only [ne_eq, Tables.byOpcode_eq_some_iff, hzero, not_false_eq_true, true_and, not_and]

theorem specOf?_eq_some_iff :
    tables.specOf? bits = some spec ↔
      spec ∈ tables.specs ∧ 6 ≤ bits.length ∧ spec.Coded (Bits.toWord bits) := by
  constructor
  · exact coded_of_specOf?
  · rintro ⟨hmem, hle, hcoded⟩
    exact specOf?_of_coded hmem hle hcoded

def Spec.Selected (spec : Spec) (instruction : Instruction) (opcode : Nat) : Prop :=
  (spec.format = .r ∧ opcode = 0 ∧
      ∃ funct, instruction.field? .funct = some funct ∧ spec.functionCode = some funct.value) ∨
    (spec.format ≠ .r ∧ spec.opcode = opcode)

theorem field?_decode (hname : name ∈ layout (tables.formatOf? word.toList)) :
    (decode tables settings word).field? name =
      some (Field.ofBits name (name.slice word.toList) (Reading.ofField tables settings
        ((tables.specOf? word.toList).any (·.hasUnsignedImmediate)) name)) := by
  unfold Instruction.field?
  rw [fields_decode]
  exact find?_map_name (fun _ => rfl) hname

theorem field?_funct (settings : Settings) (hformat : tables.formatOf? word.toList = some .r) :
    ∃ funct, (decode tables settings word).field? .funct = some funct ∧
      funct.value = Bits.toNat (FieldName.funct.slice (Bits.toWord word.toList)) ∧
      funct.display =
        ((Reading.functionCode tables
          (Bits.padTo FieldName.funct.width (FieldName.funct.slice word.toList))).getD "unknown") := by
  have hname : FieldName.funct ∈ layout (tables.formatOf? word.toList) := by
    rw [hformat]
    decide
  exact ⟨_, field?_decode hname, value_padTo_slice .funct word.toList, rfl⟩

theorem selected_iff (hle : 6 ≤ word.toList.length) (hmem : spec ∈ tables.specs) :
    spec.Selected (decode tables settings word) (opcodeOf word.toList) ↔
      spec.Coded (Bits.toWord word.toList) := by
  have hwf := (tables.consistent.wellFormed spec hmem).2
  constructor
  · rintro (⟨hr, hzero, funct, hfunct, hcode⟩ | ⟨hformat, hopcode⟩)
    · rw [if_pos hr] at hwf
      have hfound : tables.formatOf? word.toList = some .r := (formatOf?_eq_r_iff hle).2 hzero
      obtain ⟨field, hfield, hvalue, -⟩ := field?_funct settings hfound
      rw [hfield, Option.some.injEq] at hfunct
      subst hfunct
      refine ⟨?_, fun _ => ?_⟩
      · rw [toNat_slice_opcode hle, hzero, hwf.1]
      · rw [hcode, hvalue]
    · refine ⟨?_, fun hr => absurd hr hformat⟩
      rw [toNat_slice_opcode hle, hopcode]
  · intro hcoded
    have hopcode := hcoded.opcode
    rw [toNat_slice_opcode hle] at hopcode
    by_cases hr : spec.format = .r
    · rw [if_pos hr, ← hopcode] at hwf
      have hfound : tables.formatOf? word.toList = some .r := (formatOf?_eq_r_iff hle).2 hwf.1
      obtain ⟨funct, hfunct, hvalue, -⟩ := field?_funct settings hfound
      refine .inl ⟨hr, hwf.1, funct, hfunct, ?_⟩
      rw [hvalue]
      exact hcoded.funct hr
    · exact .inr ⟨hr, hopcode.symm⟩

theorem spec_decode_eq_some_iff (hle : 6 ≤ word.toList.length) :
    (decode tables settings word).spec = some spec ↔
      spec ∈ tables.specs ∧ spec.Selected (decode tables settings word) (opcodeOf word.toList) := by
  show tables.specOf? word.toList = some spec ↔ _
  rw [specOf?_eq_some_iff]
  constructor
  · rintro ⟨hmem, -, hcoded⟩
    exact ⟨hmem, (selected_iff hle hmem).2 hcoded⟩
  · rintro ⟨hmem, hselected⟩
    exact ⟨hmem, hle, (selected_iff hle hmem).1 hselected⟩

theorem display_opcode (hle : 6 ≤ word.toList.length) :
    ((decode tables settings word).field? .opcode).map (·.display) =
      some (if opcodeOf word.toList = 0 then "R"
        else ((tables.byOpcode (opcodeOf word.toList)).map (·.mnemonic)).getD "unknown") := by
  have hname : FieldName.opcode ∈ layout (tables.formatOf? word.toList) := by
    match tables.formatOf? word.toList with
    | some .r | some .i | some .j | none => decide
  have hvalue : Bits.value (Bits.padTo FieldName.opcode.width (FieldName.opcode.slice word.toList))
      = opcodeOf word.toList := by
    rw [value_padTo_slice, toNat_slice_opcode hle]
  rw [field?_decode hname, Option.map_some]
  unfold Field.ofBits Reading.ofField Reading.opcode
  dsimp only
  rw [hvalue]
  split
  · next hzero => rw [hzero, if_pos rfl, Option.getD_some]
  · next hzero => rw [if_neg hzero]

theorem display_funct (hformat : tables.formatOf? word.toList = some .r) :
    ((decode tables settings word).field? .funct).map (·.display) =
      some ((decode tables settings word).mnemonic?.getD "unknown") := by
  obtain ⟨funct, hfunct, -, hdisplay⟩ := field?_funct settings hformat
  have hspec : (decode tables settings word).spec = tables.byFunctionCode
      (Bits.value (Bits.padTo FieldName.funct.width (FieldName.funct.slice word.toList))) := by
    show tables.specOf? word.toList = _
    unfold Tables.specOf?
    rw [hformat]
    rfl
  rw [hfunct, Option.map_some, hdisplay, Instruction.mnemonic?, hspec]
  rfl

namespace Instruction

structure Dispatched (tables : Tables) (opcode : Nat) (instruction : Instruction) : Prop where
  r_iff : instruction.format = some .r ↔ opcode = 0
  other_iff : ∀ format ≠ Format.r, instruction.format = some format ↔
    ∃ spec ∈ tables.specs, spec.format = format ∧ spec.opcode = opcode
  unknown_iff : instruction.format = none ↔
    opcode ≠ 0 ∧ ∀ spec ∈ tables.specs, spec.format ≠ .r → spec.opcode ≠ opcode
  spec_iff : ∀ spec, instruction.spec = some spec ↔
    spec ∈ tables.specs ∧ spec.Selected instruction opcode
  unique : ∀ a ∈ tables.specs, ∀ b ∈ tables.specs, a.Selected instruction opcode →
    b.Selected instruction opcode → a = b

structure ShowsCodes (instruction : Instruction) : Prop where
  r : instruction.format = some .r →
    (instruction.field? .opcode).map (·.display) = some "R" ∧
      (instruction.field? .funct).map (·.display) = some (instruction.mnemonic?.getD "unknown")
  other : ∀ format ≠ Format.r, instruction.format = some format →
    ∃ spec, instruction.spec = some spec ∧
      (instruction.field? .opcode).map (·.display) = some spec.mnemonic
  unknown : instruction.format = none →
    (instruction.field? .opcode).map (·.display) = some "unknown"

end Instruction

theorem dispatched_decode (hle : 6 ≤ word.toList.length) :
    (decode tables settings word).Dispatched tables (opcodeOf word.toList) := by
  constructor
  · exact formatOf?_eq_r_iff hle
  · intro format hformat
    exact formatOf?_eq_some_iff hle hformat
  · exact formatOf?_eq_none_iff hle
  · intro spec
    exact spec_decode_eq_some_iff hle
  · intro a ha b hb haselected hbselected
    have ha := (spec_decode_eq_some_iff hle).2 ⟨ha, haselected⟩
    have hb := (spec_decode_eq_some_iff hle).2 ⟨hb, hbselected⟩
    rw [ha, Option.some.injEq] at hb
    exact hb

theorem showsCodes_decode (hle : 6 ≤ word.toList.length) :
    (decode tables settings word).ShowsCodes := by
  constructor
  · intro hr
    refine ⟨?_, display_funct hr⟩
    rw [display_opcode hle, if_pos ((formatOf?_eq_r_iff hle).1 hr)]
  · intro format hne hformat
    obtain ⟨spec, hmem, rfl, hopcode⟩ := (formatOf?_eq_some_iff hle hne).1 hformat
    have hselected : spec.Selected (decode tables settings word) (opcodeOf word.toList) :=
      .inr ⟨hne, hopcode⟩
    have hzero : opcodeOf word.toList ≠ 0 := by
      have hcodes := (tables.consistent.wellFormed spec hmem).2
      rw [if_neg hne, hopcode] at hcodes
      exact hcodes.1
    refine ⟨spec, (spec_decode_eq_some_iff hle).2 ⟨hmem, hselected⟩, ?_⟩
    rw [display_opcode hle, if_neg hzero, Tables.byOpcode_eq_some_iff.2 ⟨hmem, hne, hopcode⟩]
    rfl
  · intro hnone
    obtain ⟨hzero, hothers⟩ := (formatOf?_eq_none_iff hle).1 hnone
    have hmissing : tables.byOpcode (opcodeOf word.toList) = none := by
      rw [Option.eq_none_iff_forall_ne_some]
      intro spec hspec
      obtain ⟨hmem, hformat, hopcode⟩ := Tables.byOpcode_eq_some_iff.1 hspec
      exact hothers spec hmem hformat hopcode
    rw [display_opcode hle, if_neg hzero, hmissing]
    rfl

theorem decode_dispatch (tables : Tables) (settings : Settings) (word : String) :
    tables.formatOf? word.toList = (decode tables settings word).format ∧
      (∀ spec, (decode tables settings word).spec = some spec →
        (decode tables settings word).format = some spec.format) ∧
      (word.toList.length < 6 → (decode tables settings word).format = none ∧
        (decode tables settings word).spec = none) ∧
      (6 ≤ word.toList.length →
        (decode tables settings word).Dispatched tables (Bits.toNat (word.toList.take 6)) ∧
          (decode tables settings word).ShowsCodes) := by
  refine ⟨rfl, ?_, ?_, ?_⟩
  · intro spec hspec
    exact format_of_specOf? hspec
  · intro hlt
    have hnone : tables.formatOf? word.toList = none := formatOf?_of_lt hlt
    refine ⟨hnone, ?_⟩
    show tables.specOf? word.toList = none
    unfold Tables.specOf?
    rw [hnone]
  · intro hle
    exact ⟨dispatched_decode hle, showsCodes_decode hle⟩

theorem decode_dispatch_letters :
    6 ≤ "0o0o0o".toList.length ∧
      (decode Tables.builtin Settings.fallback "0o0o0o").format = some .r ∧
      (decode Tables.builtin Settings.fallback "0o0o0o").spec
        = some ⟨"sll", 0, some 0, .r, "Shift Left Logical"⟩ ∧
      ((decode Tables.builtin Settings.fallback "0o0o0o").field? .funct).map (·.display)
        = some "sll" := by
  have hle : 6 ≤ "0o0o0o".toList.length := by decide
  obtain ⟨hdispatched, hshown⟩ :=
    (decode_dispatch Tables.builtin Settings.fallback "0o0o0o").2.2.2 hle
  have hr : (decode Tables.builtin Settings.fallback "0o0o0o").format = some .r :=
    hdispatched.r_iff.2 (by decide)
  have hspec : (decode Tables.builtin Settings.fallback "0o0o0o").spec
      = some ⟨"sll", 0, some 0, .r, "Shift Left Logical"⟩ := by
    decide +kernel
  refine ⟨hle, hr, hspec, ?_⟩
  rw [(hshown.r hr).2, Instruction.mnemonic?, hspec]
  rfl

end MipsWord
