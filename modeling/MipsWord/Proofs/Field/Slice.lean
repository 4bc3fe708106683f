import MipsWord.Encode.Basic
import MipsWord.Instruction.Decode
import MipsWord.Proofs.Bits.Number

namespace MipsWord

def FieldName.offset : FieldName → Nat
  | opcode => 0
  | rs | jumpAddress | unknown => 6
  | rt => 11
  | rd | immediate => 16
  | shamt => 21
  | funct => 26

def FieldName.slice (name : FieldName) (word : List Char) : List Char :=
  (word.drop name.offset).take name.width

def Contiguous (start : Nat) : List FieldName → Prop
  | [] => True
  | name :: names => name.offset = start ∧ Contiguous (start + name.width) names

variable {name : FieldName} {names : List FieldName} {word : List Char} {start : Nat}
  {format : Option Format}

theorem contiguous_layout (format : Option Format) : Contiguous 0 (layout format) := by
  match format with
  | some .r | some .i | some .j | none => simp [layout, Contiguous, FieldName.offset, FieldName.width]

theorem FieldName.width_pos (name : FieldName) : 0 < name.width := by
  cases name <;> decide

theorem FieldName.offset_add_width_le (name : FieldName) : name.offset + name.width ≤ wordBits := by
  cases name <;> decide

theorem FieldName.length_slice (h : word.length = wordBits) :
    (name.slice word).length = name.width := by
  have hle := name.offset_add_width_le
  simp only [slice, List.length_take, List.length_drop]
  omega

theorem FieldName.isBits_slice (h : Bits.IsBits word) : Bits.IsBits (name.slice word) := by
  intro c hc
  exact h c (List.mem_of_mem_drop (List.mem_of_mem_take hc))

theorem Cursor.fields_eq_map (interpret : FieldName → Interpreter) (h : Contiguous start names) :
    (Cursor.mk (word.drop start)).fields interpret names
      = names.map fun name => Field.ofBits name (name.slice word) (interpret name) := by
  induction names generalizing start with
  | nil => rfl
  | cons name names ih =>
    obtain ⟨rfl, hrest⟩ := h
    rw [List.map_cons, ← ih hrest]
    simp only [fields, field, take, FieldName.slice, List.drop_drop]

theorem Cursor.fields_layout (interpret : FieldName → Interpreter) (format : Option Format)
    (word : List Char) :
    (Cursor.mk word).fields interpret (layout format)
      = (layout format).map fun name => Field.ofBits name (name.slice word) (interpret name) := by
  rw [← fields_eq_map interpret (contiguous_layout format), List.drop_zero]

theorem flatMap_slice (h : Contiguous start names) :
    names.flatMap (·.slice word)
      = (word.drop start).take (names.foldr (fun name sum => name.width + sum) 0) := by
  induction names generalizing start with
  | nil => simp
  | cons name names ih =>
    obtain ⟨rfl, hrest⟩ := h
    rw [List.flatMap_cons, ih hrest, List.foldr_cons, List.take_add, List.drop_drop]
    rfl

theorem flatMap_slice_layout (format : Option Format) (word : List Char) :
    (layout format).flatMap (·.slice word) = word.take wordBits := by
  rw [flatMap_slice (contiguous_layout format), layout_width, List.drop_zero]

theorem slice_append_flatMap {pieces : List (FieldName × List Char)} {piece : FieldName × List Char}
    {front : List Char} (hcontiguous : Contiguous front.length (pieces.map (·.1)))
    (hlength : ∀ p ∈ pieces, p.2.length = p.1.width) (hmem : piece ∈ pieces) :
    piece.1.slice (front ++ pieces.flatMap (·.2)) = piece.2 := by
  induction pieces generalizing front with
  | nil => simp at hmem
  | cons head pieces ih =>
    -- The pieces packed so far are in `front`, so that the next one starts at its offset.
    obtain ⟨hoffset, hrest⟩ := hcontiguous
    have hhead : head.2.length = head.1.width := hlength head (by simp)
    rw [List.flatMap_cons]
    cases List.mem_cons.1 hmem with
    | inl heq =>
      subst heq
      rw [FieldName.slice, hoffset, List.drop_left, ← hhead, List.take_left]
    | inr htail =>
      rw [← List.append_assoc]
      apply ih _ _ htail
      · rw [List.length_append, hhead]
        exact hrest
      · intro p hp
        exact hlength p (List.mem_cons_of_mem head hp)

theorem length_flatMap_pieces {pieces : List (FieldName × List Char)}
    (hlength : ∀ p ∈ pieces, p.2.length = p.1.width) :
    (pieces.flatMap (·.2)).length
      = (pieces.map (·.1)).foldr (fun name sum => name.width + sum) 0 := by
  induction pieces with
  | nil => rfl
  | cons head pieces ih =>
    rw [List.flatMap_cons, List.length_append, List.map_cons, List.foldr_cons,
      hlength head (by simp), ih]
    intro p hp
    exact hlength p (List.mem_cons_of_mem head hp)

theorem getElem?_padTo (width : Nat) (bits : List Char) (i : Nat) :
    (Bits.padTo width bits)[i]? =
      if i < bits.length then bits[i]? else if i < width then some '0' else none := by
  rw [Bits.padTo, List.rightpad, List.getElem?_append]
  split
  · rfl
  · next hle =>
    rw [List.getElem?_replicate]
    split <;> split <;> first | rfl | omega

theorem FieldName.slice_padTo (name : FieldName) (bits : List Char) :
    name.slice (Bits.padTo wordBits bits) = Bits.padTo name.width (name.slice bits) := by
  have hle := name.offset_add_width_le
  apply List.ext_getElem?
  intro i
  simp only [slice, List.getElem?_take, List.getElem?_drop, getElem?_padTo, List.length_take,
    List.length_drop]
  repeat' split
  all_goals first | rfl | omega

theorem FieldName.slice_take (name : FieldName) (bits : List Char) :
    name.slice (bits.take wordBits) = name.slice bits := by
  have hle := name.offset_add_width_le
  rw [slice, List.drop_take, List.take_take, Nat.min_eq_left (by omega)]
  rfl

theorem FieldName.slice_map (name : FieldName) (f : Char → Char) (bits : List Char) :
    name.slice (bits.map f) = (name.slice bits).map f := by
  rw [slice, slice, List.map_take, List.map_drop]

theorem FieldName.slice_toWord (name : FieldName) (bits : List Char) :
    name.slice (Bits.toWord bits) = (Bits.padTo name.width (name.slice bits)).map Bits.clean := by
  rw [Bits.toWord, slice_padTo, slice_map, slice_take, Bits.map_clean_padTo]

end MipsWord
