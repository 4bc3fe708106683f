import MipsWord.Proofs.Encode.Step
import MipsWord.Tables.Load

namespace MipsWord

variable {tables : Tables} {spec : Spec} {placement : Placement}

/--
The word holds the codes of an instruction and, each in its field, the numbers that its registers denote and
the number that its literal is read as. A missing offset and the fields of an R word without an operand are
zero.
-/
structure Assembles (tables : Tables) (spec : Spec) (operands : Operands String) (word : List Char) :
    Prop where
  coded : spec.Coded word
  registers :
    List.Forall₂ (fun name register => tables.Denotes register (Bits.toNat (name.slice word)))
      (spec.family.registerFields operands.grammar) operands.registers
  literal : ∀ literal ∈ operands.literal?, ∃ number : Literal, number.Reads literal.toList ∧
    spec.numberField.Holds (spec.numberField.name.slice word) number.toInt
  offset : operands.grammar = .loadStore → operands.literal? = none →
    Bits.toNat (FieldName.immediate.slice word) = 0
  unused : spec.format = .r → ∀ name ∈ [FieldName.rs, .rt, .rd, .shamt],
    name ∉ spec.family.registerFields operands.grammar → (name = .shamt → spec.family ≠ .shift) →
      Bits.toNat (name.slice word) = 0

variable {operands : Operands String} {numbers : Operands Nat} {encoded : Encoded}

def Spec.Fills (spec : Spec) (placement : Placement) (number : Nat) (word : List Char) : Prop :=
  ∀ name ∈ layout (some placement.format),
    name.slice word = Bits.ofNat name.width (spec.content placement number name)

namespace Spec.Fills

variable {number : Nat} {word : List Char} {name : FieldName}

theorem toNat_slice (h : spec.Fills placement number word)
    (hname : name ∈ layout (some placement.format)) :
    Bits.toNat (name.slice word) = spec.content placement number name := by
  rw [h name hname, Bits.toNat_ofNat]

theorem coded (h : spec.Fills placement number word) (hwf : spec.WellFormed)
    (hsuits : placement.Suits spec.family) : spec.Coded word := by
  constructor
  · exact h.toNat_slice placement.opcode_mem_layout
  · intro hr
    have hcodes := hwf.2
    rw [if_pos hr] at hcodes
    obtain ⟨-, code, -, hcode⟩ := hcodes
    rw [hcode, h.toNat_slice]
    · simp [content, hcode]
    · rw [hsuits.format_eq_r_iff.2 hr]
      decide

theorem registers (h : spec.Fills placement number word)
    (hreplace : operands.replace? tables.resolve? = some numbers)
    (hplaces : numbers.Places spec.family placement) :
    List.Forall₂ (fun name register => tables.Denotes register (Bits.toNat (name.slice word)))
      (spec.family.registerFields operands.grammar) operands.registers := by
  obtain ⟨hgrammar, -, hregisters⟩ := Operands.of_replace?_eq_some hreplace
  have hfields : (spec.family.registerFields operands.grammar).map
      (fun name => some (Bits.toNat (name.slice word))) = operands.registers.map tables.resolve? := by
    rw [hregisters, ← hplaces.map_number, hgrammar, List.map_map]
    apply List.map_congr_left
    intro name hname
    obtain ⟨hlayout, hregister⟩ := hplaces.mem_layout (hgrammar ▸ hname)
    rw [h.toNat_slice hlayout]
    cases name <;> first | rfl | exact absurd hregister (by decide)
  apply (forall₂_of_map_eq hfields).imp
  intro name register hresolve
  exact Tables.resolve?_eq_some_iff.1 hresolve.symm

theorem literal {number : FieldNumber} {literal : String}
    (h : spec.Fills placement number.value word) (hsuits : placement.Suits spec.family)
    (hliteral : placement.literal? = some literal)
    (hread : spec.numberField.readOption placement.literal? = .ok number) :
    ∃ value : Literal, value.Reads literal.toList ∧
      spec.numberField.Holds (spec.numberField.name.slice word) value.toInt := by
  have hname := (hsuits.eq_numberField_name_iff (by simp [hliteral]) _).1 rfl
  have hcontent : spec.content placement number.value spec.numberField.name = number.value := by
    cases spec.numberField <;> rfl
  rw [hliteral] at hread
  obtain ⟨value, hreads, hfits, hvalue⟩ := NumberField.exists_reads_of_read hread
  refine ⟨value, hreads, ?_⟩
  rw [h _ hname.1, hcontent, hvalue]
  exact NumberField.holds_of_fits hfits

theorem unused {number : FieldNumber} (h : spec.Fills placement number.value word)
    (hplaces : numbers.Places spec.family placement)
    (hread : spec.numberField.readOption placement.literal? = .ok number)
    (hr : spec.format = .r) (hmem : name ∈ [FieldName.rs, .rt, .rd, .shamt])
    (hregister : name ∉ spec.family.registerFields numbers.grammar)
    (hshift : name = .shamt → spec.family ≠ .shift) : Bits.toNat (name.slice word) = 0 := by
  have hsuits := hplaces.suits
  have hformat := hsuits.format_eq_r_iff.2 hr
  have hlayout : name ∈ layout (some placement.format) := by
    rw [hformat]
    cases name <;> simp_all [layout]
  rw [h.toNat_slice hlayout]
  cases name with
  | rs | rt | rd => exact hplaces.number_eq_zero hregister
  | shamt =>
    -- Of the placements of R format, only that of a shift has an amount.
    cases placement with
    | registers rs rt rd =>
      cases hread
      rfl
    | shift rt rd literal => exact absurd hsuits (hshift rfl)
    | immediate | jump => contradiction
  | opcode | funct | immediate | jumpAddress | unknown => simp at hmem

end Spec.Fills

theorem Spec.Fills.assembles {number : FieldNumber} {word : List Char}
    (h : spec.Fills placement number.value word) (hwf : spec.WellFormed)
    (hreplace : operands.replace? tables.resolve? = some numbers)
    (hplaces : numbers.Places spec.family placement)
    (hread : spec.numberField.readOption placement.literal? = .ok number) :
    Assembles tables spec operands word := by
  obtain ⟨hgrammar, hliteral, -⟩ := Operands.of_replace?_eq_some hreplace
  have hplaced := hplaces.literal?_eq
  rw [hgrammar, hliteral] at hplaced
  constructor
  · exact h.coded hwf hplaces.suits
  · exact h.registers hreplace hplaces
  · intro literal hmem
    apply h.literal hplaces.suits _ hread
    rw [hplaced, hmem]
    split <;> rfl
  · intro hloadStore hnone
    -- A missing offset is placed as the literal "0", which is read as zero.
    rw [if_pos hloadStore, hnone] at hplaced
    have hsome : placement.literal? = some "0" := hplaced
    rw [hsome] at hread
    have hzero : spec.numberField.read "0" = .ok number := hread
    rw [NumberField.read_zero] at hzero
    cases hzero
    have haccepts : Grammar.loadStore.accepts spec.family = true := by
      rw [← hloadStore, ← hgrammar]
      exact Operands.exists_places_iff.1 ⟨placement, hplaces⟩
    have hname : FieldName.immediate = spec.numberField.name := by
      rw [Spec.numberField_name, Family.literalField_of_loadStore haccepts]
    rw [h.toNat_slice ((hplaces.suits.eq_numberField_name_iff (by simp [hsome]) _).1 hname).1]
    rfl
  · intro hr name hmem hregister hshift
    rw [← hgrammar] at hregister
    exact h.unused hplaces hread hr hmem hregister hshift

theorem Line.assembles_of_outcome {line : Line} {word : String} {note : Option String}
    (h : line.outcome tables = .accepted word note) :
    ∃ spec ∈ tables.specs, spec.mnemonic = line.mnemonic ∧ word.toList.length = wordBits ∧
      Bits.IsBits word.toList ∧ Assembles tables spec line.operands word.toList := by
  obtain ⟨encoded, hencode, rfl, -⟩ := outcome_eq_accepted_iff.1 h
  obtain ⟨spec, numbers, placement, number, hspec, hreplace, hplaces, hread, rfl⟩ :=
    exists_places_of_encode hencode
  obtain ⟨hmem, hmnemonic⟩ := Tables.byMnemonic_eq_some_iff.1 hspec
  have hfit := content_lt_of_places hspec hreplace hplaces hread
  have hfills : spec.Fills placement number.value (spec.word placement number).word := by
    intro name hname
    exact slice_packLayout hfit hname
  have hwf := tables.consistent.wellFormed spec hmem
  rw [String.toList_ofList]
  exact ⟨spec, hmem, hmnemonic, length_packLayout hfit, isBits_packLayout _ _,
    hfills.assembles hwf hreplace hplaces hread⟩

theorem encode_sound {text word : String} (h : (encode tables text).value? = some word) :
    ∃ line spec, Line.Spells line (Line.normalize text) ∧
      spec ∈ tables.specs ∧ spec.mnemonic = line.mnemonic ∧
      word.toList.length = 32 ∧ Bits.IsBits word.toList ∧
      (∀ settings, (decode tables settings word).isTruncated = false ∧
        (decode tables settings word).format = some spec.format ∧
        (decode tables settings word).spec = some spec) ∧
      Assembles tables spec line.operands word.toList := by
  obtain ⟨line, note, hspells, houtcome⟩ := exists_spells_of_value? h
  obtain ⟨spec, hmem, hmnemonic, hlength, hbits, hassembles⟩ := Line.assembles_of_outcome houtcome
  refine ⟨line, spec, hspells, hmem, hmnemonic, hlength, hbits, ?_, hassembles⟩
  intro settings
  exact decode_of_coded hmem hlength hbits hassembles.coded settings

theorem encode_sound_store :
    (encode Tables.builtin " SW $t0, -4 ( $SP )").value?
        = some "10101111101010001111111111111100" ∧
      ∃ line spec, Line.Spells line (Line.normalize " SW $t0, -4 ( $SP )") ∧
        spec ∈ Tables.builtin.specs ∧ spec.mnemonic = line.mnemonic ∧
        Assembles Tables.builtin spec line.operands "10101111101010001111111111111100".toList := by
  have hvalue : (encode Tables.builtin " SW $t0, -4 ( $SP )").value?
      = some "10101111101010001111111111111100" := by decide +kernel
  obtain ⟨line, spec, hspells, hmem, hmnemonic, -, -, -, hassembles⟩ := encode_sound hvalue
  exact ⟨hvalue, line, spec, hspells, hmem, hmnemonic, hassembles⟩

end MipsWord
