import MipsWord.Proofs.Instruction.Text
import MipsWord.Proofs.RoundTrip

namespace MipsWord

variable {tables : Tables} {settings : Settings} {spec : Spec} {bits text word : String}

theorem Tables.eq_of_mnemonic_eq {other : Spec} (hspec : spec ∈ tables.specs)
    (hother : other ∈ tables.specs) (h : other.mnemonic = spec.mnemonic) : other = spec := by
  have hfound := byMnemonic_eq_some_iff.2 ⟨hspec, rfl⟩
  rw [byMnemonic_eq_some_iff.2 ⟨hother, h⟩, Option.some.injEq] at hfound
  exact hfound

section Assembly

variable (hnamed : settings.registerMode = .names → tables.Named)
  (hspec : tables.specOf? bits.toList = some spec)
  (hvalue : (encode tables (String.ofList
    (spec.assembly tables settings (Bits.toWord bits.toList)))).value? = some word)

include hnamed hvalue

theorem exists_spec_of_value? :
    ∃ found ∈ tables.specs, (decode tables settings word).spec = some found ∧
      found.mnemonic = leadingWord spec.mnemonic ∧ IsWord found.mnemonic.toList := by
  have hlength := Bits.length_toWord bits.toList
  obtain ⟨line, note, hspells, houtcome⟩ := exists_spells_of_value? hvalue
  obtain ⟨found, hfound, hmnemonic, hlength', hbits', hassembles⟩ := Line.assembles_of_outcome houtcome
  have hagain := decode_of_coded hfound hlength' hbits' hassembles.coded settings
  refine ⟨found, hfound, hagain.2.2, ?_, ?_⟩
  · rw [hmnemonic]
    rw [Spec.assembly_eq] at hspells
    exact hspells.mnemonic_eq_leadingWord (spells_operandText hnamed hlength spec)
      (isLower_operandText hnamed hlength spec)
  · rw [hmnemonic]
    exact hspells.isWord_mnemonic

include hspec

theorem agrees_of_leadingWord_eq (hformat : spec.family.format = spec.format)
    (hword : IsWord spec.mnemonic.toList) (hown : leadingWord spec.mnemonic = spec.mnemonic) :
    (decode tables settings bits).Agrees (decode tables settings word) := by
  obtain ⟨hmem, -, hcoded⟩ := coded_of_specOf? hspec
  rw [encode_assembly_of_leadingWord_eq hnamed (Bits.length_toWord bits.toList) hmem hformat hword hown
    (isBits_toWord bits.toList) hcoded] at hvalue
  apply agrees_clear_of_format_family hformat hspec
  rw [← Option.some.inj hvalue, String.toList_ofList]

end Assembly

theorem reencode_leadingWord (hmode : settings.registerMode = .numbers)
    (htext : (decode tables settings bits).text? = some text)
    (hvalue : (encode tables text).value? = some word) :
    ∃ spec ∈ tables.specs, ∃ found ∈ tables.specs,
      (decode tables settings bits).spec = some spec ∧
      (decode tables settings word).spec = some found ∧
      found.mnemonic = leadingWord spec.mnemonic ∧
      ((decode tables settings bits).Agrees (decode tables settings word) ↔
        ∀ other ∈ tables.specs, other.mnemonic = leadingWord spec.mnemonic → other = spec) := by
  have hnamed : settings.registerMode = .names → tables.Named := by
    intro hnames
    rw [hmode] at hnames
    contradiction
  obtain ⟨spec, hspec, hformat⟩ := exists_specOf?_of_text? htext
  have hmem := (coded_of_specOf? hspec).1
  rw [text?_decode_of_format_family hformat hspec, Option.some.injEq] at htext
  subst htext
  obtain ⟨found, hfound, hagain, hleading, hword⟩ := exists_spec_of_value? hnamed hvalue
  refine ⟨spec, hmem, found, hfound, hspec, hagain, hleading, ?_⟩
  constructor
  · intro hagrees other hother heq
    have hsame : found = spec := by
      rw [← Option.some.injEq, ← hagain, hagrees.spec]
      exact hspec
    subst hsame
    exact Tables.eq_of_mnemonic_eq hmem hother (heq.trans hleading.symm)
  · intro honly
    have hsame : found = spec := honly found hfound hleading
    subst hsame
    exact agrees_of_leadingWord_eq hnamed hspec hvalue hformat hword hleading.symm

def Tables.capitals : Tables where
  specs := [⟨"add", 0, some 32, .r, "Add"⟩, ⟨"ADD", 0, some 33, .r, "Add Again"⟩]
  registers := []
  consistent := firstConflict?_eq_none_iff.1 (by decide)

def Settings.plainNumbers : Settings where
  registerMode := .numbers
  immediateFormat := .decimal

theorem reencode_leadingWord_add :
    (decode Tables.capitals Settings.plainNumbers "00000000001000100001111111100000").text?
        = some "add $3, $1, $2" ∧
      (encode Tables.capitals "add $3, $1, $2").value? = some "00000000001000100001100000100000" ∧
      (decode Tables.capitals Settings.plainNumbers "00000000001000100001111111100000").Agrees
        (decode Tables.capitals Settings.plainNumbers "00000000001000100001100000100000") := by
  have htext : (decode Tables.capitals Settings.plainNumbers "00000000001000100001111111100000").text?
      = some "add $3, $1, $2" := by decide +kernel
  have hvalue : (encode Tables.capitals "add $3, $1, $2").value?
      = some "00000000001000100001100000100000" := by decide +kernel
  obtain ⟨spec, -, found, -, hspec, -, -, hagrees⟩ := reencode_leadingWord rfl htext hvalue
  have hadd : (decode Tables.capitals Settings.plainNumbers "00000000001000100001111111100000").spec
      = some ⟨"add", 0, some 32, .r, "Add"⟩ := by decide +kernel
  rw [hadd, Option.some.injEq] at hspec
  subst hspec
  exact ⟨htext, hvalue, hagrees.2 (by decide +kernel)⟩

theorem capitals_reencode_ne :
    (decode Tables.capitals Settings.plainNumbers "00000000001000100001100000100001").text?
        = some "ADD $3, $1, $2" ∧
      (encode Tables.capitals "ADD $3, $1, $2").value? = some "00000000001000100001100000100000" ∧
      (decode Tables.capitals Settings.plainNumbers "00000000001000100001100000100000").spec ≠
        (decode Tables.capitals Settings.plainNumbers "00000000001000100001100000100001").spec := by
  decide +kernel

end MipsWord
