import MipsWord.Proofs.Field.Slice
import MipsWord.Proofs.Tables.Lookup

namespace MipsWord

variable {tables : Tables} {settings : Settings} {spec : Spec} {word bits : List Char}
  {name : FieldName}

theorem toWord_of_isBits (hlength : word.length = wordBits) (hbits : Bits.IsBits word) :
    Bits.toWord word = word := by
  rw [Bits.toWord, ← hlength, List.take_length, Bits.map_clean_of_isBits hbits,
    Bits.padTo_of_le (Nat.le_refl _)]

theorem isBits_toWord (bits : List Char) : Bits.IsBits (Bits.toWord bits) := by
  rw [Bits.toWord, Bits.padTo, List.rightpad]
  apply Bits.IsBits.append (Bits.isBits_map_clean _)
  intro c hc
  left
  exact List.eq_of_mem_replicate hc

theorem FieldName.width_le (name : FieldName) : name.width ≤ wordBits := by
  cases name <;> decide

theorem length_padTo_slice (name : FieldName) (bits : List Char) :
    (Bits.padTo name.width (name.slice bits)).length = name.width := by
  rw [Bits.length_padTo, FieldName.slice, List.length_take]
  omega

theorem value_padTo_slice (name : FieldName) (bits : List Char) :
    Bits.value (Bits.padTo name.width (name.slice bits)) = Bits.toNat (name.slice (Bits.toWord bits)) := by
  rw [FieldName.slice_toWord, Bits.toNat_map_clean]
  apply Bits.value_eq_toNat
  rw [length_padTo_slice]
  exact name.width_le

theorem value_take_opcode (h : FieldName.opcode.width ≤ bits.length) :
    Bits.value (bits.take FieldName.opcode.width)
      = Bits.toNat (FieldName.opcode.slice (Bits.toWord bits)) := by
  have hslice : bits.take FieldName.opcode.width = FieldName.opcode.slice bits := rfl
  have hle : FieldName.opcode.width ≤ (FieldName.opcode.slice bits).length := by
    rw [← hslice, List.length_take]
    omega
  rw [← value_padTo_slice, Bits.padTo_of_le hle, hslice]

structure Spec.Coded (spec : Spec) (word : List Char) : Prop where
  opcode : Bits.toNat (FieldName.opcode.slice word) = spec.opcode
  funct : spec.format = .r → spec.functionCode = some (Bits.toNat (FieldName.funct.slice word))

theorem formatOf?_of_coded (hspec : spec ∈ tables.specs) (hle : FieldName.opcode.width ≤ bits.length)
    (hcoded : spec.Coded (Bits.toWord bits)) : tables.formatOf? bits = some spec.format := by
  have hwf := (tables.consistent.wellFormed spec hspec).2
  unfold Tables.formatOf?
  rw [if_neg (by omega), value_take_opcode hle, hcoded.opcode]
  split at hwf
  · next hformat =>
    rw [hwf.1, hformat]
    rfl
  · next hformat =>
    split
    -- Only R entries have opcode 0.
    · next hzero => exact absurd hzero hwf.1
    · rw [Tables.byOpcode_eq_some_iff.2 ⟨hspec, hformat, rfl⟩]
      rfl

theorem specOf?_of_coded (hspec : spec ∈ tables.specs) (hle : FieldName.opcode.width ≤ bits.length)
    (hcoded : spec.Coded (Bits.toWord bits)) : tables.specOf? bits = some spec := by
  unfold Tables.specOf?
  rw [formatOf?_of_coded hspec hle hcoded]
  cases hformat : spec.format with
  | r =>
    have hvalue := value_padTo_slice .funct bits
    dsimp only
    rw [Tables.byFunctionCode_eq_some_iff]
    refine ⟨hspec, hformat, ?_⟩
    rw [hcoded.funct hformat, ← hvalue]
    rfl
  | i | j =>
    dsimp only
    rw [value_take_opcode hle, Tables.byOpcode_eq_some_iff]
    exact ⟨hspec, by simp [hformat], hcoded.opcode.symm⟩

theorem opcode_of_formatOf? {format : Format} (h : tables.formatOf? bits = some format) :
    FieldName.opcode.width ≤ bits.length ∧
      (format = .r → Bits.toNat (FieldName.opcode.slice (Bits.toWord bits)) = 0) := by
  unfold Tables.formatOf? at h
  split at h
  · contradiction
  · next hlong =>
    have hle : FieldName.opcode.width ≤ bits.length := by omega
    rw [value_take_opcode hle] at h
    refine ⟨hle, ?_⟩
    rintro rfl
    split at h
    · assumption
    · obtain ⟨spec, hspec, hformat⟩ := Option.map_eq_some_iff.1 h
      exact absurd hformat (Tables.byOpcode_eq_some_iff.1 hspec).2.1

theorem coded_of_byOpcode {format : Format} (hfound : tables.formatOf? bits = some format)
    (h : tables.byOpcode (Bits.value (bits.take FieldName.opcode.width)) = some spec) :
    spec ∈ tables.specs ∧ FieldName.opcode.width ≤ bits.length ∧ spec.Coded (Bits.toWord bits) := by
  obtain ⟨hle, -⟩ := opcode_of_formatOf? hfound
  obtain ⟨hspec, hformat, hopcode⟩ := Tables.byOpcode_eq_some_iff.1 h
  rw [value_take_opcode hle] at hopcode
  exact ⟨hspec, hle, hopcode.symm, fun hr => absurd hr hformat⟩

theorem coded_of_specOf? (h : tables.specOf? bits = some spec) :
    spec ∈ tables.specs ∧ FieldName.opcode.width ≤ bits.length ∧ spec.Coded (Bits.toWord bits) := by
  unfold Tables.specOf? at h
  split at h
  · next hfound =>
    obtain ⟨hle, hzero⟩ := opcode_of_formatOf? hfound
    obtain ⟨hspec, hformat, hcode⟩ := Tables.byFunctionCode_eq_some_iff.1 h
    -- An R word has opcode 0, and so has the entry.
    have hwf := (tables.consistent.wellFormed spec hspec).2
    rw [if_pos hformat] at hwf
    refine ⟨hspec, hle, ?_, ?_⟩
    · rw [hzero rfl, hwf.1]
    · intro _
      rw [hcode, ← value_padTo_slice]
      rfl
  · next hfound => exact coded_of_byOpcode hfound h
  · next hfound => exact coded_of_byOpcode hfound h
  · contradiction

theorem fields_decode (tables : Tables) (settings : Settings) (word : String) :
    (decode tables settings word).fields
      = (layout (tables.formatOf? word.toList)).map fun name =>
          Field.ofBits name (name.slice word.toList) (Reading.ofField tables settings
            ((tables.specOf? word.toList).any (·.hasUnsignedImmediate)) name) :=
  Cursor.fields_layout ..

theorem Instruction.roleOf_of_spec {instruction : Instruction} (h : instruction.spec = some spec)
    (name : FieldName) : instruction.roleOf name = spec.family.role name := by
  unfold roleOf
  rw [h]

theorem format_of_specOf? {word : String} (hspec : tables.specOf? word.toList = some spec) :
    (decode tables settings word).format = some spec.format := by
  obtain ⟨hmem, hle, hcoded⟩ := coded_of_specOf? hspec
  exact formatOf?_of_coded hmem hle hcoded

theorem format_ne_none_of_specOf? {word : String} (hspec : tables.specOf? word.toList = some spec) :
    (decode tables settings word).format ≠ none := by
  rw [format_of_specOf? hspec]
  exact Option.some_ne_none _

theorem rawBits_decode (tables : Tables) (settings : Settings) (word : String) :
    (decode tables settings word).rawBits = word.toList.take wordBits := by
  unfold Instruction.rawBits
  rw [fields_decode, List.flatMap_map]
  simp only [Field.ofBits, String.toList_ofList]
  apply flatMap_slice_layout

theorem bitLength_decode (tables : Tables) (settings : Settings) (word : String) :
    (decode tables settings word).bitLength = wordBits := by
  unfold Instruction.bitLength
  rw [fields_decode, List.foldr_map]
  exact layout_width _

theorem isTruncated_ofBits_slice (name : FieldName) (bits : List Char) (interpret : Interpreter) :
    (Field.ofBits name (name.slice bits) interpret).isTruncated = true ↔
      bits.length < name.offset + name.width := by
  have hpos := name.width_pos
  unfold Field.isTruncated
  rw [decide_eq_true_eq]
  show (String.ofList (name.slice bits)).toList.length < name.width ↔ _
  rw [String.toList_ofList, FieldName.slice, List.length_take, List.length_drop]
  omega

theorem exists_last_field (format : Option Format) :
    ∃ name ∈ layout format, name.offset + name.width = wordBits := by
  match format with
  | some .r => exact ⟨.funct, by decide, rfl⟩
  | some .i => exact ⟨.immediate, by decide, rfl⟩
  | some .j => exact ⟨.jumpAddress, by decide, rfl⟩
  | none => exact ⟨.unknown, by decide, rfl⟩

theorem isTruncated_decode_iff (tables : Tables) (settings : Settings) (word : String) :
    (decode tables settings word).isTruncated = true ↔ word.toList.length < wordBits := by
  unfold Instruction.isTruncated
  rw [fields_decode, List.any_map, List.any_eq_true]
  constructor
  · rintro ⟨name, -, hshort⟩
    have hlt := (isTruncated_ofBits_slice ..).1 hshort
    exact Nat.lt_of_lt_of_le hlt name.offset_add_width_le
  · intro hlt
    obtain ⟨name, hmem, hlast⟩ := exists_last_field (tables.formatOf? word.toList)
    refine ⟨name, hmem, (isTruncated_ofBits_slice ..).2 ?_⟩
    rwa [hlast]

theorem isTruncated_decode (tables : Tables) (settings : Settings) {word : String}
    (h : word.toList.length = wordBits) : (decode tables settings word).isTruncated = false := by
  rw [← Bool.not_eq_true, isTruncated_decode_iff, h]
  exact Nat.lt_irrefl _

theorem decode_of_coded {word : String} (hspec : spec ∈ tables.specs)
    (hlength : word.toList.length = wordBits) (hbits : Bits.IsBits word.toList)
    (hcoded : spec.Coded word.toList) (settings : Settings) :
    (decode tables settings word).isTruncated = false ∧
      (decode tables settings word).format = some spec.format ∧
      (decode tables settings word).spec = some spec := by
  have hle : FieldName.opcode.width ≤ word.toList.length := by
    rw [hlength]
    decide
  rw [← toWord_of_isBits hlength hbits] at hcoded
  exact ⟨isTruncated_decode tables settings hlength, formatOf?_of_coded hspec hle hcoded,
    specOf?_of_coded hspec hle hcoded⟩

theorem signedValue_map_clean (bits : List Char) :
    Bits.signedValue (bits.map Bits.clean) = Bits.signedValue bits := by
  have hhead : (bits.map Bits.clean).head? = some '1' ↔ bits.head? = some '1' := by
    cases bits with
    | nil => rfl
    | cons c bits =>
      simp only [List.map_cons, List.head?_cons, Option.some.injEq, Bits.clean]
      split <;> simp_all
  unfold Bits.signedValue Bits.value
  rw [Bits.toNat_map_clean, List.length_map]
  simp only [hhead]

theorem ofField_map_clean (hname : name ≠ .unknown) (unsigned : Bool) (bits : List Char) :
    Reading.ofField tables settings unsigned name (bits.map Bits.clean)
      = Reading.ofField tables settings unsigned name bits := by
  have hvalue : Bits.value (bits.map Bits.clean) = Bits.value bits := by
    unfold Bits.value
    rw [Bits.toNat_map_clean]
  cases name with
  | unknown => contradiction
  | immediate =>
    cases unsigned with
    | true => simp only [Reading.ofField, if_true, Reading.unsignedImmediate, hvalue]
    | false =>
      simp only [Reading.ofField, Bool.false_eq_true, if_false, Reading.signedImmediate,
        signedValue_map_clean]
  | opcode => simp only [Reading.ofField, Reading.opcode, hvalue]
  | rs | rt | rd => simp only [Reading.ofField, Reading.register, hvalue]
  | shamt => simp only [Reading.ofField, Reading.shiftAmount, hvalue]
  | funct => simp only [Reading.ofField, Reading.functionCode, hvalue]
  | jumpAddress => simp only [Reading.ofField, Reading.jumpAddress, hvalue]

def Spec.display (spec : Spec) (tables : Tables) (settings : Settings) (word : List Char)
    (name : FieldName) : String :=
  (Reading.ofField tables settings spec.hasUnsignedImmediate name (name.slice word)).getD "unknown"

theorem unknown_not_mem_layout (format : Format) : FieldName.unknown ∉ layout (some format) := by
  cases format <;> decide

theorem fields_of_specOf? {word : String} (hspec : tables.specOf? word.toList = some spec) :
    (decode tables settings word).fields = (layout (some spec.format)).map fun name =>
      { name
        rawBits := String.ofList (name.slice word.toList)
        value := Bits.toNat (name.slice (Bits.toWord word.toList))
        display := spec.display tables settings (Bits.toWord word.toList) name } := by
  obtain ⟨hmem, hle, hcoded⟩ := coded_of_specOf? hspec
  rw [fields_decode, hspec, formatOf?_of_coded hmem hle hcoded]
  apply List.map_congr_left
  intro name hname
  have hunknown : name ≠ .unknown := by
    rintro rfl
    exact unknown_not_mem_layout spec.format hname
  unfold Field.ofBits Spec.display
  simp only [value_padTo_slice, FieldName.slice_toWord, ofField_map_clean hunknown, Option.any_some]

end MipsWord
