import MipsWord.Proofs.Instruction.Assembly
import MipsWord.Proofs.Tables.Plain

namespace MipsWord

variable {tables : Tables} {settings : Settings} {spec : Spec} {word : String} {name : FieldName}

theorem operand?_decode_eq_none (hspec : tables.specOf? word.toList = some spec)
    (hname : name ∉ layout (some spec.format)) :
    (decode tables settings word).operand? spec.family name = none := by
  unfold Instruction.operand? Instruction.field?
  rw [fields_of_specOf? hspec, Option.map_eq_none_iff, List.find?_eq_none]
  intro field hfield
  obtain ⟨other, hother, rfl⟩ := List.mem_map.1 hfield
  rw [decide_eq_true_eq]
  rintro rfl
  exact hname hother

theorem Spec.Stray.isLoadStore_family (h : spec.Stray) : spec.family.isLoadStore = true := by
  obtain ⟨hformat, hmnemonic⟩ := h
  unfold family
  rw [hformat]
  dsimp only
  split
  · rfl
  · next hload =>
    rw [if_pos (hmnemonic.resolve_left hload)]
    rfl

theorem parts?_decode_eq_none_iff (hspec : tables.specOf? word.toList = some spec) :
    (decode tables settings word).parts? = none ↔ spec.Stray := by
  constructor
  · intro hnone
    apply Decidable.byContradiction
    intro hstray
    have hnames : ∀ name ∈ spec.family.textOperands, name ∈ layout (some spec.format) := by
      rw [← spec.format_family_iff.2 hstray]
      exact spec.family.textOperands_mem_layout
    rw [parts?_decode hspec hnames] at hnone
    contradiction
  · intro hstray
    -- A load or store is written with `rt`, and a J word has no such field.
    have hwritten : FieldName.rt ∈ spec.family.textOperands := by
      have hloadStore := hstray.isLoadStore_family
      cases hfamily : spec.family <;> simp_all [Family.isLoadStore, Family.textOperands]
    have hmissing : FieldName.rt ∉ layout (some spec.format) := by
      rw [hstray.1]
      decide
    rw [Instruction.parts?_of_spec (format_ne_none_of_specOf? hspec) hspec,
      mapM_eq_none_of_mem hwritten (operand?_decode_eq_none hspec hmissing)]
    rfl

theorem exists_specOf?_of_text? {text : String}
    (h : (decode tables settings word).text? = some text) :
    ∃ spec, tables.specOf? word.toList = some spec ∧ spec.family.format = spec.format := by
  unfold Instruction.text? at h
  obtain ⟨parts, hparts, -⟩ := Option.map_eq_some_iff.1 h
  cases hspec : tables.specOf? word.toList with
  | none =>
    rw [Instruction.parts?_eq_none (.inr hspec)] at hparts
    contradiction
  | some spec =>
    refine ⟨spec, rfl, spec.format_family_iff.2 ?_⟩
    intro hstray
    rw [(parts?_decode_eq_none_iff hspec).2 hstray] at hparts
    contradiction

theorem text?_decode_eq_none_iff (tables : Tables) (settings : Settings) (word : String) :
    (decode tables settings word).text? = none ↔
      (decode tables settings word).format = none ∨ (decode tables settings word).spec = none ∨
        ∃ spec, (decode tables settings word).spec = some spec ∧ spec.Stray := by
  unfold Instruction.text?
  rw [Option.map_eq_none_iff]
  cases hspec : (decode tables settings word).spec with
  | none => simp [Instruction.parts?_eq_none (.inr hspec)]
  | some spec =>
    have hformat : (decode tables settings word).format = some spec.format := format_of_specOf? hspec
    rw [parts?_decode_eq_none_iff hspec, hformat]
    simp

def Tables.jumpingLoad : Tables where
  specs := [⟨"lw", 2, none, .j, "Load Word"⟩]
  registers := []
  consistent := firstConflict?_eq_none_iff.1 (by decide)

theorem jumpingLoad_text?_eq_none :
    (decode Tables.jumpingLoad Settings.fallback "00001000000000000000000000000101").format = some .j ∧
      (decode Tables.jumpingLoad Settings.fallback "00001000000000000000000000000101").spec
        = some ⟨"lw", 2, none, .j, "Load Word"⟩ ∧
      (decode Tables.jumpingLoad Settings.fallback "00001000000000000000000000000101").text? = none := by
  decide +kernel

end MipsWord
