import MipsWord.Proofs.Encode.Word
import MipsWord.Proofs.Report.Ranges
import MipsWord.Proofs.WordText

namespace MipsWord

variable {tables : Tables} {settings : Settings} {format : WordFormat} {line text bits digits : String}

def Report.silent (report : Report) : Report :=
  { report with message := none }

theorem inspectWord_of_value? (h : (format.readBits text).value? = some bits) :
    inspectWord tables settings format text
      = Report.ofInstruction (decode tables settings bits) (format.readBits text).message? := by
  unfold inspectWord
  dsimp only
  rw [h]
  rfl

theorem silent_inspectWord (h : (format.readBits text).value? = some bits) :
    (inspectWord tables settings format text).silent
      = Report.ofInstruction (decode tables settings bits) none :=
  congrArg Report.silent (inspectWord_of_value? h)

theorem inspectLine_of_value? (h : (encode tables line).value? = some bits) :
    (inspectLine tables settings line).2
      = some (Report.ofInstruction (decode tables settings bits) (encode tables line).message?) := by
  unfold inspectLine
  dsimp only
  rw [h]
  rfl

theorem hex_ofInstruction_decode_ofHex (message : Option Diagnostic)
    (hdigits : ∀ c ∈ digits.toList, Base.hexadecimal.isDigit c = true)
    (hle : (Bits.ofHex digits.toList).length ≤ wordBits) :
    (Report.ofInstruction (decode tables settings (String.ofList (Bits.ofHex digits.toList)))
      message).hex = digits.toLower := by
  unfold Report.ofInstruction String.toLower
  rw [← String.toList_inj, String.toList_ofList, rawBits_decode, String.toList_ofList,
    List.take_of_length_le hle, Bits.toHex_ofHex, String.toList_map]
  exact List.map_congr_left fun c hc => Bits.hexDigit_of_isDigit (hdigits c hc)

theorem entry_paths_agree (tables : Tables) (settings : Settings) :
    (∀ line, (inspectLine tables settings line).1 = encode tables line ∧
      (inspectLine tables settings line).2.isSome = (encode tables line).value?.isSome ∧
      ∀ word report, (encode tables line).value? = some word →
        (inspectLine tables settings line).2 = some report →
        report.silent = (inspectWord tables settings .binary word).silent ∧
        report.silent = (inspectWord tables settings .hex
          (String.ofList (Bits.toHex word.toList))).silent ∧
        report.message = (encode tables line).message? ∧
        report.message.any Diagnostic.isError = false) ∧
    ∀ text, ∃ digits, (WordFormat.hex.read text).value? = some digits ∧
      (inspectWord tables settings .hex text).silent = (inspectWord tables settings .binary
        (String.ofList (Bits.ofHex digits.toList))).silent ∧
      (inspectWord tables settings .hex text).hex = digits.toLower := by
  constructor
  · intro line
    refine ⟨rfl, Option.isSome_map .., ?_⟩
    intro word report hword hreport
    rw [inspectLine_of_value? hword, Option.some.injEq] at hreport
    subst hreport
    obtain ⟨_, _, _, houtcome⟩ := exists_spells_of_value? hword
    obtain ⟨_, _, _, hlength, hbits, _⟩ := Line.assembles_of_outcome houtcome
    have hle : word.toList.length ≤ 32 := Nat.le_of_eq hlength
    have hwhole : word.toList.length % 4 = 0 := by
      rw [hlength]
      rfl
    have hbinary := WordFormat.readBits_of_isBits hbits hle
    have hhex := WordFormat.readBits_toHex hbits hle hwhole
    rw [silent_inspectWord (congrArg Outcome.value? hbinary),
      silent_inspectWord (congrArg Outcome.value? hhex)]
    exact ⟨rfl, rfl, rfl, Outcome.isError_of_value? hword⟩
  · intro text
    obtain ⟨digits, hvalue⟩ := WordFormat.exists_value?_read .hex text
    obtain ⟨hdigits, hle⟩ := WordFormat.isDigit_of_value? hvalue
    have hword : (Bits.ofHex digits.toList).length ≤ 32 := by
      rw [Bits.length_ofHex]
      exact Nat.mul_le_mul_left 4 hle
    have hhex := WordFormat.value?_readBits_hex hvalue
    have hbinary : WordFormat.binary.readBits (String.ofList (Bits.ofHex digits.toList))
        = .accepted (String.ofList (Bits.ofHex digits.toList)) none := by
      apply WordFormat.readBits_of_isBits
      · rw [String.toList_ofList]
        exact Bits.isBits_ofHex digits.toList
      · rwa [String.toList_ofList]
    refine ⟨digits, hvalue, ?_, ?_⟩
    · rw [silent_inspectWord hhex, silent_inspectWord (congrArg Outcome.value? hbinary)]
    · rw [inspectWord_of_value? hhex]
      exact hex_ofInstruction_decode_ofHex _ hdigits hword

theorem entry_paths_agree_partial :
    encode Tables.builtin "andi $t0, $t1, 12abc" = .accepted "00110001001010000000000000001100"
        (some "immediate \"12abc\" read as 12") ∧
      (∃ report, (inspectLine Tables.builtin Settings.fallback "andi $t0, $t1, 12abc").2 = some report ∧
        report.silent = (inspectWord Tables.builtin Settings.fallback .binary
          "00110001001010000000000000001100").silent ∧
        report.silent = (inspectWord Tables.builtin Settings.fallback .hex "3128000c").silent ∧
        report.message = some { text := "immediate \"12abc\" read as 12", severity := .info }) ∧
      (inspectWord Tables.builtin Settings.fallback .hex "0x3128000Cy").silent = (inspectWord
        Tables.builtin Settings.fallback .binary "00110001001010000000000000001100").silent := by
  have hencode : encode Tables.builtin "andi $t0, $t1, 12abc"
      = .accepted "00110001001010000000000000001100"
        (some "immediate \"12abc\" read as 12") := by
    decide +kernel
  obtain ⟨hline, htext⟩ := entry_paths_agree Tables.builtin Settings.fallback
  obtain ⟨-, hreport, hagree⟩ := hline "andi $t0, $t1, 12abc"
  rw [hencode] at hreport hagree
  obtain ⟨report, hsome⟩ := Option.isSome_iff_exists.1 hreport
  obtain ⟨hbinary, hhex, hmessage, -⟩ := hagree _ report rfl hsome
  obtain ⟨digits, hdigits, hsilent, -⟩ := htext "0x3128000Cy"
  have hread : (WordFormat.hex.read "0x3128000Cy").value? = some "3128000C" := by decide +kernel
  rw [hread, Option.some.injEq] at hdigits
  subst hdigits
  have htoHex : String.ofList (Bits.toHex "00110001001010000000000000001100".toList) = "3128000c" := by
    decide +kernel
  have hofHex : String.ofList (Bits.ofHex "3128000C".toList) = "00110001001010000000000000001100" := by
    decide +kernel
  refine ⟨hencode, ⟨report, hsome, hbinary, ?_, hmessage⟩, ?_⟩
  · rw [hhex, htoHex]
  · rw [hsilent, hofHex]

end MipsWord
