import MipsWord.Proofs.Encode.Written
import MipsWord.Proofs.Line.Normal

namespace MipsWord

open Text

variable {tables : Tables} {settings : Settings} {spec : Spec} {word : List Char} {name : FieldName}

def Tables.registerText (tables : Tables) (settings : Settings) (word : List Char)
    (name : FieldName) : String :=
  tables.token settings.registerMode (Bits.value (name.slice word))

theorem display_register (hname : name ∈ [FieldName.rs, .rt, .rd]) :
    spec.display tables settings word name = "$" ++ tables.registerText settings word name := by
  have hregister : Reading.ofField tables settings spec.hasUnsignedImmediate name
      = Reading.register tables settings.registerMode := by
    cases name <;> first | rfl | simp at hname
  unfold Spec.display Tables.registerText
  rw [hregister]
  unfold Reading.register Tables.token
  cases settings.registerMode <;> rfl

theorem exists_display_eq_formatInt (tables : Tables) (settings : Settings) (spec : Spec)
    (word : List Char) :
    ∃ base value, spec.display tables settings word spec.numberField.name = Base.formatInt base value ∧
      spec.numberField.Holds (spec.numberField.name.slice word) value := by
  unfold Spec.numberField
  split
  · exact ⟨.decimal, .ofNat _, rfl, rfl⟩
  · exact ⟨settings.immediateFormat, .ofNat _, rfl, rfl⟩
  · unfold Spec.immediateField
    cases hunsigned : spec.hasUnsignedImmediate with
    | true =>
      rw [if_pos rfl]
      refine ⟨settings.immediateFormat, .ofNat _, ?_, rfl⟩
      unfold Spec.display
      rw [hunsigned]
      rfl
    | false =>
      rw [if_neg Bool.false_ne_true]
      refine ⟨settings.immediateFormat, _, ?_, rfl⟩
      unfold Spec.display
      rw [hunsigned]
      rfl

theorem eq_numberField_name_of_textOperands (hname : name ∈ spec.family.textOperands)
    (hother : name ∉ [FieldName.rs, .rt, .rd]) : name = spec.numberField.name := by
  rw [spec.numberField_name]
  revert hname
  cases spec.family
  all_goals
    intro hname
    simp only [Family.textOperands, Family.literalField, List.mem_cons] at hname hother ⊢
    grind

namespace Spec

def operandText (spec : Spec) (tables : Tables) (settings : Settings) (word : List Char) : List Char :=
  (spec.family.operandParts (spec.display tables settings word)).flatMap (·.text.toList)

def assembly (spec : Spec) (tables : Tables) (settings : Settings) (word : List Char) : List Char :=
  spec.mnemonic.toList ++ [' '] ++ spec.operandText tables settings word

def line (spec : Spec) (tables : Tables) (settings : Settings) (word : List Char) : Line where
  mnemonic := spec.mnemonic
  operands := spec.family.write (tables.registerText settings word)
    (spec.display tables settings word spec.numberField.name)

theorem assembly_eq (spec : Spec) (tables : Tables) (settings : Settings) (word : List Char) :
    spec.assembly tables settings word =
      spec.mnemonic.toList ++ ' ' :: spec.operandText tables settings word :=
  List.append_assoc ..

end Spec

theorem text?_decode_of_format_family {bits : String} (hformat : spec.family.format = spec.format)
    (hspec : tables.specOf? bits.toList = some spec) :
    (decode tables settings bits).text? =
      some (String.ofList (spec.assembly tables settings (Bits.toWord bits.toList))) := by
  have hnames : ∀ name ∈ spec.family.textOperands, name ∈ layout (some spec.format) := by
    rw [← hformat]
    exact spec.family.textOperands_mem_layout
  unfold Instruction.text? Spec.assembly Spec.operandText
  rw [parts?_decode hspec hnames, Option.map_some, List.flatMap_cons, List.flatMap_cons,
    List.append_assoc]
  rfl

theorem text?_decode {bits : String} (hplain : tables.Plain)
    (hspec : tables.specOf? bits.toList = some spec) :
    (decode tables settings bits).text? =
      some (String.ofList (spec.assembly tables settings (Bits.toWord bits.toList))) :=
  text?_decode_of_format_family (format_family hplain (coded_of_specOf? hspec).1) hspec

section Assembly

variable (hnamed : settings.registerMode = .names → tables.Named) (hlength : word.length = wordBits)

include hnamed hlength

theorem registerText_spec (hname : name ∈ [FieldName.rs, .rt, .rd]) :
    IsPlain (tables.registerText settings word name) ∧
      tables.resolve? (tables.registerText settings word name)
        = some (Bits.toNat (name.slice word)) := by
  have hslice : (name.slice word).length = name.width := FieldName.length_slice hlength
  have hlt := Bits.toNat_lt (name.slice word)
  have hwidth : name.width = 5 := by
    cases name <;> first | rfl | simp at hname
  have hle : (name.slice word).length ≤ wordBits := by
    rw [hslice]
    exact name.width_le
  rw [hslice, hwidth] at hlt
  rw [Tables.registerText, Bits.value_eq_toNat hle]
  exact token_spec hnamed (Nat.le_of_lt_succ hlt)

theorem spells_operandText (spec : Spec) :
    SpellsOperands (spec.line tables settings word).operands
      (spec.operandText tables settings word) := by
  apply spells_write
  · intro name hname
    exact display_register hname
  · intro name hname
    exact (registerText_spec hnamed hlength hname).1.isWord
  · intro name hname hother
    rw [eq_numberField_name_of_textOperands hname hother]
  · obtain ⟨base, value, hdisplay, -⟩ := exists_display_eq_formatInt tables settings spec word
    rw [hdisplay]
    exact base.isLiteral_formatInt value

theorem isLower_operandText (spec : Spec) : IsLower (spec.operandText tables settings word) := by
  apply isLower_operandParts
  intro name hname
  by_cases hregister : name ∈ [FieldName.rs, .rt, .rd]
  · rw [display_register hregister, String.toList_append]
    exact isLower_cons.2 ⟨by decide, (registerText_spec hnamed hlength hregister).1.isLower⟩
  · obtain ⟨base, value, hdisplay, -⟩ := exists_display_eq_formatInt tables settings spec word
    rw [eq_numberField_name_of_textOperands hname hregister, hdisplay]
    exact base.isLower_formatInt value

theorem encode_line (hspec : spec ∈ tables.specs) (hformat : spec.family.format = spec.format)
    (hbits : Bits.IsBits word) (hcoded : spec.Coded word) :
    (spec.line tables settings word).encode tables = .ok { word := spec.clear word, note := none } := by
  have hliteral : spec.numberField.read (spec.display tables settings word spec.numberField.name)
      = .ok { value := Bits.toNat (spec.numberField.name.slice word), note := none } := by
    obtain ⟨base, value, hdisplay, hholds⟩ := exists_display_eq_formatInt tables settings spec word
    rw [hdisplay]
    exact NumberField.read_formatInt (FieldName.length_slice hlength) hholds base
  rw [clear_eq_packLayout hlength hbits]
  apply encode_write hspec hformat _ hliteral hcoded.opcode hcoded.funct
  intro name hname
  exact (registerText_spec hnamed hlength hname).2

theorem encode_assembly_of_leadingWord_eq (hspec : spec ∈ tables.specs)
    (hformat : spec.family.format = spec.format) (hword : IsWord spec.mnemonic.toList)
    (hown : leadingWord spec.mnemonic = spec.mnemonic) (hbits : Bits.IsBits word)
    (hcoded : spec.Coded word) :
    encode tables (String.ofList (spec.assembly tables settings word))
      = .accepted (String.ofList (spec.clear word)) none := by
  have hoperands := spells_operandText hnamed hlength spec
  have hspells : (spec.line tables settings word).Spells
      (Line.normalize (String.ofList (spec.assembly tables settings word))) := by
    rw [Spec.assembly_eq, normalize_of_leadingWord_eq hword hown hoperands.endsInk
      (isLower_operandText hnamed hlength spec), ← Spec.assembly_eq]
    exact .intro hword isBlanks_blank (by simp) hoperands
  rw [encode_of_spells hspells, Line.outcome,
    encode_line hnamed hlength hspec hformat hbits hcoded]

end Assembly

theorem encode_assembly (hplain : tables.Plain)
    (hnamed : settings.registerMode = .names → tables.Named) (hspec : spec ∈ tables.specs)
    (hlength : word.length = wordBits) (hbits : Bits.IsBits word) (hcoded : spec.Coded word) :
    encode tables (String.ofList (spec.assembly tables settings word))
      = .accepted (String.ofList (spec.clear word)) none := by
  have hmnemonic := hplain.mnemonic spec hspec
  exact encode_assembly_of_leadingWord_eq hnamed hlength hspec (format_family hplain hspec)
    hmnemonic.isWord (leadingWord_of_isPlain hmnemonic) hbits hcoded

theorem agrees_clear_of_format_family {bits again : String}
    (hformat : spec.family.format = spec.format) (hspec : tables.specOf? bits.toList = some spec)
    (hclear : again.toList = spec.clear (Bits.toWord bits.toList)) :
    (decode tables settings bits).Agrees (decode tables settings again) := by
  obtain ⟨hmem, -, hcoded⟩ := coded_of_specOf? hspec
  have hlength := Bits.length_toWord bits.toList
  have hbits := isBits_toWord bits.toList
  have hlength' : again.toList.length = wordBits := by
    rw [hclear, length_clear hlength hbits]
  have hbits' : Bits.IsBits again.toList := by
    rw [hclear]
    exact isBits_clear hlength hbits
  have hcoded' : spec.Coded again.toList := by
    rw [hclear]
    exact coded_clear hlength hbits hcoded
  -- The cleared word is whole, so that decoding it takes its slices as they are.
  have hwhole : Bits.toWord again.toList = spec.clear (Bits.toWord bits.toList) := by
    rw [toWord_of_isBits hlength' hbits', hclear]
  apply agrees_of_slices hspec (decode_of_coded hmem hlength' hbits' hcoded' settings).2.2
  · rw [← hformat]
    exact spec.family.textOperands_mem_layout
  · intro name hname hrole
    rw [hwhole, slice_clear hlength hbits hname, if_neg hrole]
  · intro name hname hrole
    rw [hwhole, slice_clear hlength hbits hname, if_pos hrole]
    exact Bits.toNat_replicate_zero name.width

theorem agrees_clear {bits again : String} (hplain : tables.Plain)
    (hspec : tables.specOf? bits.toList = some spec)
    (hclear : again.toList = spec.clear (Bits.toWord bits.toList)) :
    (decode tables settings bits).Agrees (decode tables settings again) :=
  agrees_clear_of_format_family (format_family hplain (coded_of_specOf? hspec).1) hspec hclear

theorem decode_encode_round_trip :
    (Tables.builtin.Plain ∧ Tables.builtin.Named) ∧
      ∀ {tables : Tables} {settings : Settings} {bits : String} {spec : Spec}, tables.Plain →
        (settings.registerMode = .names → tables.Named) →
        (decode tables settings bits).spec = some spec →
        ∃ text word, (decode tables settings bits).text? = some text ∧
          word.toList = spec.clear (Bits.toWord bits.toList) ∧ word.toList.length = 32 ∧
          encode tables text = .accepted word none ∧
          (decode tables settings bits).Agrees (decode tables settings word) := by
  refine ⟨⟨builtin_plain, builtin_named⟩, ?_⟩
  intro tables settings bits spec hplain hnamed hspec
  obtain ⟨hmem, -, hcoded⟩ := coded_of_specOf? hspec
  have hlength := Bits.length_toWord bits.toList
  have hbits := isBits_toWord bits.toList
  refine ⟨_, _, text?_decode hplain hspec, String.toList_ofList, ?_,
    encode_assembly hplain hnamed hmem hlength hbits hcoded,
    agrees_clear hplain hspec String.toList_ofList⟩
  rw [String.toList_ofList, length_clear hlength hbits]
  rfl

theorem decode_encode_round_trip_mult :
    (decode Tables.builtin Settings.fallback "00000000100001010011100000011").spec
        = some ⟨"mult", 0, some 24, .r, "Multiply"⟩ ∧
      ∃ text word,
        (decode Tables.builtin Settings.fallback "00000000100001010011100000011").text? = some text ∧
        word.toList = "00000000100001010000000000011000".toList ∧
        encode Tables.builtin text = .accepted word none := by
  have hspec : (decode Tables.builtin Settings.fallback "00000000100001010011100000011").spec
      = some ⟨"mult", 0, some 24, .r, "Multiply"⟩ := by
    decide +kernel
  obtain ⟨text, word, htext, hword, -, hencode, -⟩ :=
    decode_encode_round_trip.2 builtin_plain (fun _ => builtin_named) hspec
  refine ⟨hspec, text, word, htext, ?_, hencode⟩
  rw [hword]
  decide +kernel

end MipsWord
