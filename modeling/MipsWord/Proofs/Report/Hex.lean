import MipsWord.Proofs.Inspect
import MipsWord.Proofs.Instruction.Alike

namespace MipsWord

variable {tables : Tables} {settings : Settings} {word other : String} {name : FieldName}

def Field.withoutBits (field : Field) : Field :=
  { field with rawBits := "" }

def FieldReport.withoutBits (report : FieldReport) : FieldReport :=
  { report with field := report.field.withoutBits }

/--
The report with nothing said about which bits were there and how they were read. What they mean is left.
-/
def Report.withoutBits (report : Report) : Report :=
  { report with
    bits := ""
    padding := ""
    fields := report.fields.map (·.withoutBits)
    message := none }

theorem Report.map_withoutBits_place (role : FieldName → Role) (start : Nat) (fields : List Field) :
    (place role start fields).map (·.withoutBits) = place role start (fields.map (·.withoutBits)) := by
  induction fields generalizing start with
  | nil => rfl
  | cons field fields ih =>
    rw [List.map_cons, place, place, List.map_cons, ih]
    rfl

theorem Instruction.display_fieldWithRole? (instruction : Instruction) (role : Role) :
    (instruction.fieldWithRole? role).map (·.display) =
      ((instruction.fields.map (·.withoutBits)).find? fun field =>
        instruction.roleOf field.name = role).map (·.display) := by
  rw [List.find?_map, Option.map_map]
  rfl

theorem toWord_of_length_le {bits : List Char} (hle : bits.length ≤ wordBits) :
    Bits.toWord bits = (Bits.padTo wordBits bits).map Bits.clean := by
  rw [Bits.toWord, List.take_of_length_le hle, Bits.map_clean_padTo]

section Padded

variable (hpad : Bits.padTo wordBits word.toList = Bits.padTo wordBits other.toList)

include hpad

theorem withoutBits_ofBits_slice (interpret : Interpreter) :
    (Field.ofBits name (name.slice word.toList) interpret).withoutBits
      = (Field.ofBits name (name.slice other.toList) interpret).withoutBits := by
  have hslice : Bits.padTo name.width (name.slice word.toList)
      = Bits.padTo name.width (name.slice other.toList) := by
    rw [← FieldName.slice_padTo, hpad, FieldName.slice_padTo]
  unfold Field.withoutBits Field.ofBits
  rw [hslice]

variable (hle : 6 ≤ word.toList.length) (hother : 6 ≤ other.toList.length)
  (hword : word.toList.length ≤ wordBits) (hword' : other.toList.length ≤ wordBits)

include hle hother hword hword'

theorem alike_of_padTo_eq : (decode tables settings word).Alike (decode tables settings other) := by
  apply alike_of_toWord_eq _ hle hother
  rw [toWord_of_length_le hword, toWord_of_length_le hword', hpad]

theorem map_withoutBits_fields_decode :
    (decode tables settings word).fields.map (·.withoutBits)
      = (decode tables settings other).fields.map (·.withoutBits) := by
  have halike : (decode tables settings word).Alike (decode tables settings other) :=
    alike_of_padTo_eq hpad hle hother hword hword'
  have hformat : tables.formatOf? word.toList = tables.formatOf? other.toList := halike.format
  have hspec : tables.specOf? word.toList = tables.specOf? other.toList := halike.spec
  rw [fields_decode, fields_decode, hformat, hspec, List.map_map, List.map_map]
  apply List.map_congr_left
  intro name _
  exact withoutBits_ofBits_slice hpad _

theorem withoutBits_report_congr (hhex : Bits.toHex word.toList = Bits.toHex other.toList)
    (message message' : Option Diagnostic) :
    (Report.ofInstruction (decode tables settings word) message).withoutBits
      = (Report.ofInstruction (decode tables settings other) message').withoutBits := by
  have halike : (decode tables settings word).Alike (decode tables settings other) :=
    alike_of_padTo_eq hpad hle hother hword hword'
  have hfields : (decode tables settings word).fields.map (·.withoutBits)
      = (decode tables settings other).fields.map (·.withoutBits) :=
    map_withoutBits_fields_decode hpad hle hother hword hword'
  have hroles := Instruction.roleOf_congr halike.spec
  unfold Report.withoutBits Report.ofInstruction
  simp only [Report.mk.injEq, true_and, and_true]
  refine ⟨?_, halike.format, ?_, ?_, halike.text, ?_, ?_, ?_⟩
  · rw [rawBits_decode, rawBits_decode, List.take_of_length_le hword, List.take_of_length_le hword',
      hhex]
  · unfold Instruction.mnemonic?
    rw [halike.spec]
  · rw [halike.spec]
  · rw [Instruction.display_fieldWithRole?, Instruction.display_fieldWithRole?, hfields, hroles]
  · rw [halike.parts]
  · rw [Report.map_withoutBits_place, Report.map_withoutBits_place, hfields, hroles]

end Padded

theorem Report.hex_decode (tables : Tables) (settings : Settings) (word : String)
    (message : Option Diagnostic) :
    (ofInstruction (decode tables settings word) message).hex.toList
      = Bits.toHex (word.toList.take wordBits) := by
  rw [← rawBits_decode tables settings word]
  exact String.toList_ofList

theorem inspectWord_of_body_toHex {text : String}
    (hbody : WordFormat.body text.toList = Bits.toHex word.toList) (hbits : Bits.IsBits word.toList)
    (hle : 6 ≤ word.toList.length) (hword : word.toList.length ≤ 32) (message : Option Diagnostic) :
    (inspectWord tables settings .hex text).message = none ∧
      (inspectWord tables settings .hex text).withoutBits
        = (Report.ofInstruction (decode tables settings word) message).withoutBits := by
  have hread := WordFormat.readBits_of_body_toHex hbody hbits hword
  have hvalue := congrArg Outcome.value? hread
  have hlength := Bits.length_padTo (4 * ((word.toList.length + 3) / 4)) word.toList
  have hwhole : 4 * ((word.toList.length + 3) / 4) ≤ wordBits := by
    show _ ≤ 32
    omega
  rw [inspectWord_of_value? hvalue, hread]
  refine ⟨rfl, ?_⟩
  apply withoutBits_report_congr
  · rw [String.toList_ofList, Bits.padTo_padTo hwhole]
  · rw [String.toList_ofList, hlength]
    omega
  · exact hle
  · rw [String.toList_ofList, hlength]
    exact Nat.max_le.2 ⟨hwhole, hword⟩
  · exact hword
  · rw [String.toList_ofList, Bits.toHex_padTo_whole]

theorem hex_identifies_word (tables : Tables) (settings : Settings) (format : WordFormat)
    (text : String) :
    let report := inspectWord tables settings format text
    let again := inspectWord tables settings .hex ("0x" ++ report.hex)
    Bits.padTo 8 report.hex.toList = Bits.toHex (report.bits.toList ++ report.padding.toList) ∧
      (6 ≤ report.bits.toList.length →
        again.message = none ∧ again.withoutBits = report.withoutBits) := by
  intro report again
  obtain ⟨bits, hvalue, hbits, hle⟩ := format.exists_value?_readBits text
  have hreport : report = Report.ofInstruction (decode tables settings bits)
      (format.readBits text).message? := inspectWord_of_value? hvalue
  have htake : bits.toList.take wordBits = bits.toList := List.take_of_length_le hle
  have hhex : report.hex.toList = Bits.toHex bits.toList := by
    rw [hreport, Report.hex_decode, htake]
  have hreportBits : report.bits.toList = bits.toList := by
    rw [hreport, Report.bits_decode, htake]
  constructor
  · have hpadding : report.padding.toList = Bits.zeroPadding bits.toList := by
      rw [hreport, Report.padding_decode, htake]
    rw [hhex, hreportBits, hpadding]
    exact (Bits.toHex_padTo 8 bits.toList).symm
  · intro hopcode
    rw [hreportBits] at hopcode
    have hbody : WordFormat.body ("0x" ++ report.hex).toList = Bits.toHex bits.toList := by
      rw [String.toList_append, hhex]
      rfl
    rw [hreport]
    exact inspectWord_of_body_toHex hbody hbits hopcode hle _

theorem hex_identifies_word_partial :
    (inspectWord Tables.builtin Settings.fallback .binary "0010001x").bits = "0010001" ∧
      (inspectWord Tables.builtin Settings.fallback .binary "0010001x").hex = "22" ∧
      (inspectWord Tables.builtin Settings.fallback .hex "0x22").bits = "00100010" ∧
      (inspectWord Tables.builtin Settings.fallback .hex "0x22").message = none ∧
      (inspectWord Tables.builtin Settings.fallback .hex "0x22").text = some "addi $zero, $s0, 0" ∧
      (inspectWord Tables.builtin Settings.fallback .hex "0x22").withoutBits
        = (inspectWord Tables.builtin Settings.fallback .binary "0010001x").withoutBits := by
  have hbits : (inspectWord Tables.builtin Settings.fallback .binary "0010001x").bits = "0010001" := by
    decide +kernel
  have hhex : (inspectWord Tables.builtin Settings.fallback .binary "0010001x").hex = "22" := by
    decide +kernel
  have hopcode :
      6 ≤ (inspectWord Tables.builtin Settings.fallback .binary "0010001x").bits.toList.length := by
    rw [hbits]
    decide
  obtain ⟨hmessage, hsame⟩ :=
    (hex_identifies_word Tables.builtin Settings.fallback .binary "0010001x").2 hopcode
  rw [hhex] at hmessage hsame
  refine ⟨hbits, hhex, ?_, hmessage, ?_, hsame⟩
  · decide +kernel
  · decide +kernel

end MipsWord
