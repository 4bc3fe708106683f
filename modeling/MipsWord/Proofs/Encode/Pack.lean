import MipsWord.Proofs.Instruction.Decode

namespace MipsWord

variable {format : Option Format} {content : FieldName → Nat} {spec : Spec} {word : List Char}
  {name : FieldName}

def packLayout (format : Option Format) (content : FieldName → Nat) : List Char :=
  pack ((layout format).map fun name => (name, content name))

theorem packLayout_eq_flatMap (format : Option Format) (content : FieldName → Nat) :
    packLayout format content
      = ((layout format).map fun name => (name, Bits.ofNat name.width (content name))).flatMap (·.2) := by
  unfold packLayout pack
  rw [List.flatMap_map, List.flatMap_map]

theorem isBits_packLayout (format : Option Format) (content : FieldName → Nat) :
    Bits.IsBits (packLayout format content) := by
  intro c hc
  obtain ⟨p, -, hp⟩ := List.mem_flatMap.1 hc
  exact Bits.isBits_ofNat _ _ c hp

theorem length_pieces (hfit : ∀ name ∈ layout format, content name < Bits.capacity name.width) :
    ∀ p ∈ (layout format).map fun name => (name, Bits.ofNat name.width (content name)),
      p.2.length = p.1.width := by
  intro p hp
  obtain ⟨name, hname, rfl⟩ := List.mem_map.1 hp
  exact Bits.length_ofNat name.width_pos (hfit name hname)

theorem map_fst_pieces (format : Option Format) (content : FieldName → Nat) :
    ((layout format).map fun name => (name, Bits.ofNat name.width (content name))).map (·.1)
      = layout format := by
  rw [List.map_map]
  exact List.map_id _

theorem length_packLayout
    (hfit : ∀ name ∈ layout format, content name < Bits.capacity name.width) :
    (packLayout format content).length = wordBits := by
  rw [packLayout_eq_flatMap, length_flatMap_pieces (length_pieces hfit), map_fst_pieces, layout_width]

theorem slice_packLayout (hfit : ∀ name ∈ layout format, content name < Bits.capacity name.width)
    (hname : name ∈ layout format) :
    name.slice (packLayout format content) = Bits.ofNat name.width (content name) := by
  have hcontiguous : Contiguous ([] : List Char).length
      (((layout format).map fun name => (name, Bits.ofNat name.width (content name))).map (·.1)) := by
    rw [map_fst_pieces]
    exact contiguous_layout format
  have hmem : (name, Bits.ofNat name.width (content name)) ∈
      (layout format).map fun name => (name, Bits.ofNat name.width (content name)) := by
    apply List.mem_map_of_mem hname
  rw [packLayout_eq_flatMap]
  exact slice_append_flatMap hcontiguous (length_pieces hfit) hmem

def Spec.clear (spec : Spec) (word : List Char) : List Char :=
  (layout (some spec.format)).flatMap fun name =>
    if spec.family.role name = .unused then List.replicate name.width '0' else name.slice word

variable (hlength : word.length = wordBits) (hbits : Bits.IsBits word)

include hlength hbits

theorem ofNat_toNat_slice (name : FieldName) :
    Bits.ofNat name.width (Bits.toNat (name.slice word)) = name.slice word := by
  have hslice : (name.slice word).length = name.width := FieldName.length_slice hlength
  have hne : name.slice word ≠ [] := by
    rw [← List.length_pos_iff, hslice]
    exact name.width_pos
  rw [← hslice, Bits.ofNat_toNat hne, Bits.map_clean_of_isBits (FieldName.isBits_slice hbits)]

theorem clear_eq_packLayout :
    spec.clear word = packLayout (some spec.format) fun name =>
      if spec.family.role name = .unused then 0 else Bits.toNat (name.slice word) := by
  unfold Spec.clear packLayout pack
  rw [List.flatMap_map]
  apply List.flatMap_congr
  intro name _
  dsimp only
  split
  · rw [Bits.ofNat_zero name.width_pos]
  · rw [ofNat_toNat_slice hlength hbits]

omit hbits in
theorem cleared_lt (spec : Spec) : ∀ name ∈ layout (some spec.format),
    (if spec.family.role name = .unused then 0 else Bits.toNat (name.slice word))
      < Bits.capacity name.width := by
  intro name _
  split
  · exact Bits.capacity_pos name.width
  · have hlt := Bits.toNat_lt (name.slice word)
    rwa [FieldName.length_slice hlength] at hlt

theorem length_clear : (spec.clear word).length = wordBits := by
  rw [clear_eq_packLayout hlength hbits, length_packLayout (cleared_lt hlength spec)]

theorem isBits_clear : Bits.IsBits (spec.clear word) := by
  rw [clear_eq_packLayout hlength hbits]
  apply isBits_packLayout

theorem slice_clear (hname : name ∈ layout (some spec.format)) :
    name.slice (spec.clear word) =
      if spec.family.role name = .unused then List.replicate name.width '0' else name.slice word := by
  rw [clear_eq_packLayout hlength hbits, slice_packLayout (cleared_lt hlength spec) hname]
  split
  · rw [Bits.ofNat_zero name.width_pos]
  · rw [ofNat_toNat_slice hlength hbits]

theorem coded_clear (hcoded : spec.Coded word) : spec.Coded (spec.clear word) := by
  have hrole : spec.family.role .opcode = .instruction ∧ spec.family.role .funct = .instruction := by
    cases spec.family <;> decide
  constructor
  · rw [slice_clear hlength hbits, if_neg (by simp [hrole.1])]
    · exact hcoded.opcode
    · cases spec.format <;> decide
  · intro hr
    rw [slice_clear hlength hbits, if_neg (by simp [hrole.2])]
    · exact hcoded.funct hr
    · rw [hr]
      decide

theorem clear_eq_self (h : ∀ name ∈ layout (some spec.format), spec.family.role name = .unused →
    Bits.toNat (name.slice word) = 0) : spec.clear word = word := by
  have hpieces : ∀ name ∈ layout (some spec.format),
      (if spec.family.role name = .unused then List.replicate name.width '0' else name.slice word)
        = name.slice word := by
    intro name hname
    split
    · next hrole =>
      rw [← ofNat_toNat_slice hlength hbits, h name hname hrole, Bits.ofNat_zero name.width_pos]
    · rfl
  unfold Spec.clear
  rw [List.flatMap_congr hpieces, flatMap_slice_layout, ← hlength, List.take_length]

end MipsWord
