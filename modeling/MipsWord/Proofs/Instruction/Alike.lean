import MipsWord.Proofs.Instruction.Dispatch

namespace MipsWord

variable {tables : Tables} {settings : Settings} {word other : String}

structure Field.Alike (a b : Field) : Prop where
  name : a.name = b.name
  value : a.value = b.value
  display : a.name ≠ .unknown → a.display = b.display

namespace Instruction

/--
The instructions differ at most in their raw bits and in how the tail of a word of unknown format is shown.
-/
structure Alike (a b : Instruction) : Prop where
  format : a.format = b.format
  spec : a.spec = b.spec
  fields : List.Forall₂ Field.Alike a.fields b.fields
  roles : a.roles = b.roles
  usedOperands : a.usedOperands = b.usedOperands
  parts : a.parts? = b.parts?
  text : a.text? = b.text?

variable {a b : Instruction} {name : FieldName}

theorem roleOf_congr (hspec : a.spec = b.spec) : a.roleOf = b.roleOf := by
  funext name
  unfold roleOf
  rw [hspec]

theorem map_name_congr (hfields : List.Forall₂ Field.Alike a.fields b.fields) :
    a.fields.map (·.name) = b.fields.map (·.name) := by
  rw [← List.forall₂_eq_eq_eq, List.forall₂_map_left_iff, List.forall₂_map_right_iff]
  exact hfields.imp fun _ _ h => h.name

theorem display_field?_congr {xs ys : List Field} (h : List.Forall₂ Field.Alike xs ys)
    (hname : name ≠ .unknown) :
    (xs.find? (·.name = name)).map (·.display) = (ys.find? (·.name = name)).map (·.display) := by
  induction h with
  | nil => rfl
  | @cons x y xs ys hxy _ ih =>
    rw [List.find?_cons, List.find?_cons, hxy.name]
    split
    · next hfound =>
      have hknown : x.name ≠ .unknown := by
        rw [hxy.name, of_decide_eq_true hfound]
        exact hname
      rw [Option.map_some, Option.map_some, hxy.display hknown]
    · exact ih

theorem operand?_congr (hfields : List.Forall₂ Field.Alike a.fields b.fields)
    (hname : name ≠ .unknown) (family : Family) :
    a.operand? family name = b.operand? family name := by
  have hoperand : ∀ instruction : Instruction, instruction.operand? family name =
      ((instruction.field? name).map (·.display)).map fun display =>
        .token display (family.role name) := by
    intro instruction
    rw [Option.map_map]
    rfl
  rw [hoperand, hoperand]
  unfold field?
  rw [display_field?_congr hfields hname]

theorem parts?_congr (hformat : a.format = b.format) (hspec : a.spec = b.spec)
    (hfields : List.Forall₂ Field.Alike a.fields b.fields) : a.parts? = b.parts? := by
  have hoperands : ∀ family, a.operands? family = b.operands? family := by
    intro family
    rw [operands?_eq, operands?_eq, mapM_congr]
    intro name hname
    apply operand?_congr hfields
    -- No instruction is written with the tail of a word of unknown format.
    rintro rfl
    revert hname
    cases family <;> decide
  unfold parts? family? mnemonic?
  rw [hformat, hspec]
  simp only [hoperands]

theorem alike_of_fields (hformat : a.format = b.format) (hspec : a.spec = b.spec)
    (hfields : List.Forall₂ Field.Alike a.fields b.fields) : a.Alike b := by
  have hparts := parts?_congr hformat hspec hfields
  constructor
  · exact hformat
  · exact hspec
  · exact hfields
  · have hroles : ∀ instruction : Instruction,
        instruction.roles = (instruction.fields.map (·.name)).map instruction.roleOf := by
      intro instruction
      rw [List.map_map]
      rfl
    rw [hroles, hroles, map_name_congr hfields, roleOf_congr hspec]
  · unfold usedOperands
    rw [map_name_congr hfields, roleOf_congr hspec]
  · exact hparts
  · unfold text?
    rw [hparts]

end Instruction

section SameWord

variable (hword : Bits.toWord word.toList = Bits.toWord other.toList)

include hword

theorem alike_ofBits_slice (unsigned : Bool) (name : FieldName) :
    (Field.ofBits name (name.slice word.toList) (Reading.ofField tables settings unsigned name)).Alike
      (Field.ofBits name (name.slice other.toList)
        (Reading.ofField tables settings unsigned name)) := by
  have hclean : (Bits.padTo name.width (name.slice word.toList)).map Bits.clean
      = (Bits.padTo name.width (name.slice other.toList)).map Bits.clean := by
    rw [← FieldName.slice_toWord, ← FieldName.slice_toWord, hword]
  constructor
  · rfl
  · show Bits.value _ = Bits.value _
    rw [value_padTo_slice, value_padTo_slice, hword]
  · intro (hname : name ≠ .unknown)
    show (Reading.ofField tables settings unsigned name _).getD _
      = (Reading.ofField tables settings unsigned name _).getD _
    rw [← ofField_map_clean hname, hclean, ofField_map_clean hname]

variable (hle : 6 ≤ word.toList.length) (hother : 6 ≤ other.toList.length)

include hle hother

theorem formatOf?_congr : tables.formatOf? word.toList = tables.formatOf? other.toList := by
  rw [formatOf?_eq hle, formatOf?_eq hother, ← toNat_slice_opcode hle, ← toNat_slice_opcode hother,
    hword]

theorem specOf?_congr : tables.specOf? word.toList = tables.specOf? other.toList := by
  ext spec
  rw [specOf?_eq_some_iff, specOf?_eq_some_iff, hword]
  simp only [hle, hother, true_and]

theorem alike_of_toWord_eq :
    (decode tables settings word).Alike (decode tables settings other) := by
  have hformat : tables.formatOf? word.toList = tables.formatOf? other.toList :=
    formatOf?_congr hword hle hother
  have hspec : tables.specOf? word.toList = tables.specOf? other.toList :=
    specOf?_congr hword hle hother
  apply Instruction.alike_of_fields hformat hspec
  rw [fields_decode, fields_decode, hformat, hspec, List.forall₂_map_left_iff,
    List.forall₂_map_right_iff, List.forall₂_same]
  intro name _
  apply alike_ofBits_slice hword

end SameWord

theorem display_unknown {field : Field} (hfield : field ∈ (decode tables settings word).fields)
    (hname : field.name = .unknown) :
    field.display.toList = Bits.padTo field.width field.rawBits.toList := by
  rw [fields_decode] at hfield
  obtain ⟨name, -, rfl⟩ := List.mem_map.1 hfield
  have hname : name = .unknown := hname
  subst hname
  show (String.ofList _).toList = Bits.padTo _ (String.ofList _).toList
  rw [String.toList_ofList, String.toList_ofList]
  rfl

theorem decode_alike_toWord (tables : Tables) (settings : Settings) (word : String)
    (hle : 6 ≤ word.toList.length) :
    (decode tables settings word).Alike
        (decode tables settings (String.ofList (Bits.toWord word.toList))) ∧
      (∀ other : String, 6 ≤ other.toList.length →
        Bits.toWord other.toList = Bits.toWord word.toList →
          (decode tables settings word).Alike (decode tables settings other)) ∧
      ∀ field ∈ (decode tables settings word).fields, field.name = .unknown →
        field.display.toList = Bits.padTo field.width field.rawBits.toList := by
  refine ⟨?_, ?_, ?_⟩
  · have hlength := Bits.length_toWord word.toList
    apply alike_of_toWord_eq _ hle
    · rw [String.toList_ofList, hlength]
      decide
    · rw [String.toList_ofList, toWord_of_isBits hlength (isBits_toWord word.toList)]
  · intro other hother hword
    exact alike_of_toWord_eq hword.symm hle hother
  · intro field hfield hname
    exact display_unknown hfield hname

theorem decode_alike_toWord_letters :
    6 ≤ "0o1ooox1".toList.length ∧
      String.ofList (Bits.toWord "0o1ooox1".toList) = "00100001000000000000000000000000" ∧
      (decode Tables.builtin Settings.fallback "0o1ooox1").text? = some "addi $zero, $t0, 0" := by
  have hle : 6 ≤ "0o1ooox1".toList.length := by decide
  have hword : String.ofList (Bits.toWord "0o1ooox1".toList) = "00100001000000000000000000000000" := by
    decide +kernel
  obtain ⟨halike, -, -⟩ := decode_alike_toWord Tables.builtin Settings.fallback "0o1ooox1" hle
  refine ⟨hle, hword, ?_⟩
  rw [halike.text, hword]
  decide +kernel

end MipsWord
