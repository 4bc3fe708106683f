import MipsWord.Proofs.RoundTrip

namespace MipsWord

variable {tables : Tables} {settings : Settings} {spec : Spec} {line : Line} {text word : String}
  {name : FieldName}

def Family.shortMnemonics : List String :=
  "jr" :: multDivMnemonics ++ moveFromMnemonics

/--
A line with three registers for an instruction that has a use for fewer.
-/
def Line.Overfull (line : Line) : Prop :=
  line.grammar = .threeRegister ∧ line.mnemonic ∈ Family.shortMnemonics

theorem Family.role_ne_unused_of_format_ne_r {family : Family} (hformat : family.format ≠ .r) :
    ∀ name ∈ layout (some family.format), family.role name ≠ .unused := by
  cases family with
  | load | store | immediate | jump => decide
  | threeRegister | jumpRegister | shift | multDiv | moveFrom => exact absurd rfl hformat

theorem Family.mem_of_role_eq_unused {family : Family} (hformat : family.format = .r)
    (hname : name ∈ layout (some family.format)) (hrole : family.role name = .unused) :
    name ∈ [FieldName.rs, .rt, .rd, .shamt] ∧ (name = .shamt → family ≠ .shift) := by
  rw [hformat] at hname
  revert hrole hname
  cases name <;> cases family <;> decide

theorem Family.not_mem_registerFields {family : Family} {form : Grammar}
    (haccepts : form.accepts family = true)
    (hform : form = .threeRegister → family = .threeRegister) (hrole : family.role name = .unused) :
    name ∉ family.registerFields form := by
  revert haccepts hform hrole
  cases form <;> cases family <;> cases name <;> decide

theorem Spec.family_eq_threeRegister (haccepts : Grammar.threeRegister.accepts spec.family = true)
    (hmnemonic : spec.mnemonic ∉ Family.shortMnemonics) : spec.family = .threeRegister := by
  have hr : spec.family.isRType = true := (Bool.and_eq_true_iff.1 haccepts).1
  rw [Spec.isRType_family] at hr
  rw [Family.shortMnemonics, List.cons_append, List.mem_cons, List.mem_append, not_or, not_or]
    at hmnemonic
  obtain ⟨hjr, hmultDiv, hmoveFrom⟩ := hmnemonic
  unfold Spec.family at haccepts ⊢
  rw [hr] at haccepts ⊢
  dsimp only at haccepts ⊢
  rw [if_neg hjr, if_neg hmultDiv, if_neg hmoveFrom] at haccepts ⊢
  -- A shift has no form with three registers.
  split
  · next hshift =>
    rw [if_pos hshift] at haccepts
    contradiction
  · rfl

section Assembled

variable (hassembles : Assembles tables spec line.operands word.toList)
  (hformat : spec.family.format = spec.format) (haccepts : line.grammar.accepts spec.family = true)
  (hmnemonic : spec.mnemonic = line.mnemonic) (hline : ¬ line.Overfull)

include hassembles hformat haccepts hmnemonic hline

theorem toNat_slice_of_role_eq_unused (hname : name ∈ layout (some spec.format))
    (hrole : spec.family.role name = .unused) : Bits.toNat (name.slice word.toList) = 0 := by
  rw [← hformat] at hname
  have hr : spec.family.format = .r := by
    apply Decidable.byContradiction
    intro hother
    exact Family.role_ne_unused_of_format_ne_r hother name hname hrole
  obtain ⟨hoperand, hshift⟩ := Family.mem_of_role_eq_unused hr hname hrole
  apply hassembles.unused (hformat.symm.trans hr) name hoperand _ hshift
  apply Family.not_mem_registerFields haccepts _ hrole
  intro (hthree : line.grammar = .threeRegister)
  rw [hthree] at haccepts
  apply Spec.family_eq_threeRegister haccepts
  rw [hmnemonic]
  exact fun hshort => hline ⟨hthree, hshort⟩

end Assembled

theorem reencode_stable (settings : Settings) (h : (encode Tables.builtin text).value? = some word) :
    ∃ line spec shown again, Line.read? text = some line ∧
      (decode Tables.builtin settings word).spec = some spec ∧
      (decode Tables.builtin settings word).text? = some shown ∧
      encode Tables.builtin shown = .accepted again none ∧
      again.toList = spec.clear word.toList ∧
      (decode Tables.builtin settings again).text? = some shown ∧
      (¬ line.Overfull → again = word) := by
  obtain ⟨line, note, hspells, houtcome⟩ := exists_spells_of_value? h
  obtain ⟨spec, hmem, hmnemonic, hlength, hbits, hassembles⟩ := Line.assembles_of_outcome houtcome
  obtain ⟨-, -, hspec⟩ := decode_of_coded hmem hlength hbits hassembles.coded settings
  have hnamed : settings.registerMode = .names → Tables.builtin.Named := fun _ => builtin_named
  have hformat : spec.family.format = spec.format := format_family builtin_plain hmem
  have haccepts := Line.accepts_of_outcome houtcome hmem hmnemonic
  -- The word is whole, so that it is shown as it stands.
  have hshown : (decode Tables.builtin settings word).text?
      = some (String.ofList (spec.assembly Tables.builtin settings word.toList)) := by
    rw [text?_decode builtin_plain hspec, toWord_of_isBits hlength hbits]
  have hclear : (String.ofList (spec.clear word.toList)).toList
      = spec.clear (Bits.toWord word.toList) := by
    rw [toWord_of_isBits hlength hbits, String.toList_ofList]
  have hagrees : (decode Tables.builtin settings word).Agrees (decode Tables.builtin settings
      (String.ofList (spec.clear word.toList))) := agrees_clear builtin_plain hspec hclear
  refine ⟨line, spec, _, _, Line.ofChars?_eq_some_iff.2 hspells, hspec, hshown,
    encode_assembly builtin_plain hnamed hmem hlength hbits hassembles.coded,
    String.toList_ofList, ?_, ?_⟩
  · rw [← hshown]
    unfold Instruction.text?
    rw [hagrees.parts]
  · intro hline
    have hself := clear_eq_self hlength hbits fun _ =>
      toNat_slice_of_role_eq_unused hassembles hformat haccepts hmnemonic hline
    rw [hself, String.ofList_toList]

theorem reencode_stable_mult :
    (encode Tables.builtin " MULT $9 , $a0,\t$5").value? = some "00000000100001010100100000011000" ∧
      ∃ again,
        (decode Tables.builtin Settings.fallback "00000000100001010100100000011000").text?
          = some "mult $a0, $a1" ∧
        encode Tables.builtin "mult $a0, $a1" = .accepted again none ∧
        (decode Tables.builtin Settings.fallback again).text? = some "mult $a0, $a1" ∧
        again ≠ "00000000100001010100100000011000" := by
  have hvalue : (encode Tables.builtin " MULT $9 , $a0,\t$5").value?
      = some "00000000100001010100100000011000" := by decide +kernel
  have hshown : (decode Tables.builtin Settings.fallback "00000000100001010100100000011000").text?
      = some "mult $a0, $a1" := by decide +kernel
  have hspec : (decode Tables.builtin Settings.fallback "00000000100001010100100000011000").spec
      = some ⟨"mult", 0, some 24, .r, "Multiply"⟩ := by decide +kernel
  obtain ⟨line, spec, shown, again, -, hfound, htext, hagain, hclear, hstable, -⟩ :=
    reencode_stable Settings.fallback hvalue
  rw [hshown, Option.some.injEq] at htext
  subst htext
  rw [hspec, Option.some.injEq] at hfound
  subst hfound
  refine ⟨hvalue, again, hshown, hagain, hstable, ?_⟩
  rintro rfl
  revert hclear
  decide +kernel

end MipsWord
