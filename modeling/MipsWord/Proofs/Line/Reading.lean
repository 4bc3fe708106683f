import MipsWord.Proofs.Line.Token

namespace MipsWord
namespace Line

open Text

variable {a b : String} {text rest : List Char} {line : Line} {operands : Operands String}

theorem register?_of_spells {ta : List Char} (ha : SpellsRegister a ta) :
    register? ta = some (a, []) := by
  simpa using register?_append ha stops_nil

theorem literal?_of_isLiteral {literal : String} (hliteral : IsLiteral literal.toList) :
    literal? literal.toList = some (literal, []) := by
  simpa using literal?_append hliteral stops_nil

theorem second?_append_comma {tb comma : List Char} (hb : SpellsRegister b tb)
    (hcomma : IsComma comma) (hrest : Stops isBlank rest) :
    second? a (tb ++ (comma ++ rest)) = third? a b rest := by
  have hread : register? (tb ++ (comma ++ rest)) = some (b, comma ++ rest) :=
    register?_append hb (hcomma.stops_isWordChar.append hcomma.ne_nil)
  unfold second?
  rw [hread]
  split
  · next heq =>
    simp only [Option.some.injEq, Prod.mk.injEq, List.append_eq_nil_iff] at heq
    exact absurd heq.2.1 hcomma.ne_nil
  · next heq =>
    simp only [Option.some.injEq, Prod.mk.injEq] at heq
    obtain ⟨rfl, rfl⟩ := heq
    rw [comma?_append hcomma hrest]
    rfl
  · contradiction

theorem operands?_append_comma {ta comma : List Char} (ha : SpellsRegister a ta)
    (hcomma : IsComma comma) (hrest : Stops isBlank rest) :
    operands? (ta ++ (comma ++ rest)) = second? a rest := by
  have hread : register? (ta ++ (comma ++ rest)) = some (a, comma ++ rest) :=
    register?_append ha (hcomma.stops_isWordChar.append hcomma.ne_nil)
  unfold operands?
  rw [hread]
  split
  · next heq =>
    simp only [Option.some.injEq, Prod.mk.injEq, List.append_eq_nil_iff] at heq
    exact absurd heq.2.1 hcomma.ne_nil
  · next heq =>
    simp only [Option.some.injEq, Prod.mk.injEq] at heq
    obtain ⟨rfl, rfl⟩ := heq
    rw [comma?_append hcomma hrest]
    rfl
  · contradiction

theorem third?_of_literal {literal : String} (hliteral : IsLiteral literal.toList) :
    third? a b literal.toList = some (.twoRegisterImmediate a b literal) := by
  unfold third?
  rw [register?_eq_none hliteral.stops_dollar]
  simp only [literal?_of_isLiteral hliteral]

theorem second?_of_base {s₁ s₂ tb s₃ : List Char} (hs₁ : IsBlanks s₁) (hs₂ : IsBlanks s₂)
    (hb : SpellsRegister b tb) (hs₃ : IsBlanks s₃) :
    second? a (s₁ ++ '(' :: (s₂ ++ (tb ++ (s₃ ++ [')'])))) = some (.loadStore a none b) := by
  have hbase := base?_append hs₁ hs₂ hb hs₃
  generalize s₂ ++ (tb ++ (s₃ ++ [')'])) = inner at *
  -- What stands in the parentheses plays no part: a blank or a parenthesis starts neither a register nor a
  -- literal.
  have hregister : register? (s₁ ++ '(' :: inner) = none := by
    apply register?_eq_none
    apply stops_blanks_append hs₁
    · exact beq_eq_false_of_isBlank (by decide)
    · rw [stops_cons]
      decide
  have hliteral : literal? (s₁ ++ '(' :: inner) = none := by
    apply literal?_eq_none
    · apply stops_blanks_append hs₁ isWordChar_eq_false_of_isBlank
      rw [stops_cons]
      decide
    · apply stops_blanks_append hs₁
      · exact beq_eq_false_of_isBlank (by decide)
      · rw [stops_cons]
        decide
  unfold second?
  rw [hregister]
  simp only [hliteral, hbase, Option.map_some]

theorem second?_of_offset {offset : String} {s₁ s₂ tb s₃ : List Char}
    (hoffset : IsLiteral offset.toList) (hs₁ : IsBlanks s₁) (hs₂ : IsBlanks s₂)
    (hb : SpellsRegister b tb) (hs₃ : IsBlanks s₃) :
    second? a (offset.toList ++ (s₁ ++ '(' :: (s₂ ++ (tb ++ (s₃ ++ [')'])))))
      = some (.loadStore a (some offset) b) := by
  have hbase := base?_append hs₁ hs₂ hb hs₃
  generalize s₂ ++ (tb ++ (s₃ ++ [')'])) = inner at *
  have hregister : register? (offset.toList ++ (s₁ ++ '(' :: inner)) = none :=
    register?_eq_none (hoffset.stops_dollar.append hoffset.ne_nil)
  have hliteral : literal? (offset.toList ++ (s₁ ++ '(' :: inner))
      = some (offset, s₁ ++ '(' :: inner) := by
    apply literal?_append hoffset
    apply stops_blanks_append hs₁ isWordChar_eq_false_of_isBlank
    rw [stops_cons]
    decide
  unfold second?
  rw [hregister]
  simp only [hliteral, hbase, Option.map_some]

theorem operands?_of_spells (h : SpellsOperands operands text) : operands? text = some operands := by
  cases h with
  | threeRegister ha hcomma₁ hb hcomma₂ hc =>
    simp only [List.append_assoc]
    rw [operands?_append_comma ha hcomma₁ (hb.stops_isBlank.append hb.ne_nil)]
    rw [second?_append_comma hb hcomma₂ hc.stops_isBlank]
    unfold third?
    rw [register?_of_spells hc]
  | twoRegisterImmediate ha hcomma₁ hb hcomma₂ hliteral =>
    simp only [List.append_assoc]
    rw [operands?_append_comma ha hcomma₁ (hb.stops_isBlank.append hb.ne_nil)]
    rw [second?_append_comma hb hcomma₂ hliteral.stops_isBlank]
    exact third?_of_literal hliteral
  | @loadStore a b offset ta tb comma s₁ s₂ s₃ ha hcomma hoffset hs₁ hs₂ hb hs₃ =>
    simp only [List.append_assoc, List.cons_append]
    cases offset with
    | some offset =>
      have hliteral : IsLiteral offset.toList := hoffset offset rfl
      rw [Option.getD_some]
      rw [operands?_append_comma ha hcomma (hliteral.stops_isBlank.append hliteral.ne_nil)]
      exact second?_of_offset hliteral hs₁ hs₂ hb hs₃
    | none =>
      -- Without an offset, the blanks before the parenthesis are taken with the comma.
      have hopen : Stops isBlank ('(' :: (s₂ ++ (tb ++ (s₃ ++ [')'])))) := by
        rw [stops_cons]
        decide
      have hnil : IsBlanks [] := by simp [IsBlanks]
      rw [Option.getD_none, String.toList_empty, List.nil_append, ← List.append_assoc comma]
      rw [operands?_append_comma ha (hcomma.append_blanks hs₁) hopen]
      exact second?_of_base hnil hs₂ hb hs₃
  | jump hliteral =>
    unfold operands?
    rw [register?_eq_none hliteral.stops_dollar]
    simp only [literal?_of_isLiteral hliteral]
  | twoRegister ha hcomma hb =>
    simp only [List.append_assoc]
    rw [operands?_append_comma ha hcomma hb.stops_isBlank]
    unfold second?
    rw [register?_of_spells hb]
  | oneRegister ha =>
    unfold operands?
    rw [register?_of_spells ha]

theorem spells_of_third? {ta tb comma₁ comma₂ : List Char} (ha : SpellsRegister a ta)
    (hcomma₁ : IsComma comma₁) (hb : SpellsRegister b tb) (hcomma₂ : IsComma comma₂)
    (h : third? a b text = some operands) :
    SpellsOperands operands (ta ++ comma₁ ++ tb ++ comma₂ ++ text) := by
  unfold third? at h
  split at h
  · next c hread =>
    simp only [Option.some.injEq] at h
    subst h
    obtain ⟨tc, hc, rfl⟩ := eq_append_of_register? hread
    rw [List.append_nil]
    exact .threeRegister ha hcomma₁ hb hcomma₂ hc
  · contradiction
  · split at h
    · next literal hread =>
      simp only [Option.some.injEq] at h
      subst h
      obtain ⟨hliteral, rfl⟩ := eq_append_of_literal? hread
      rw [List.append_nil]
      exact .twoRegisterImmediate ha hcomma₁ hb hcomma₂ hliteral
    · contradiction

theorem spells_of_base? {offset : Option String} {ta comma : List Char} (ha : SpellsRegister a ta)
    (hcomma : IsComma comma) (hoffset : ∀ literal ∈ offset, IsLiteral literal.toList)
    (h : base? rest = some b) :
    SpellsOperands (.loadStore a offset b) (ta ++ comma ++ ((offset.getD "").toList ++ rest)) := by
  obtain ⟨s₁, s₂, tb, s₃, hs₁, hs₂, hb, hs₃, rfl⟩ := eq_append_of_base? h
  have hspells := SpellsOperands.loadStore ha hcomma hoffset hs₁ hs₂ hb hs₃
  simpa only [List.append_assoc, List.cons_append] using hspells

theorem spells_of_second? {ta comma : List Char} (ha : SpellsRegister a ta) (hcomma : IsComma comma)
    (h : second? a text = some operands) : SpellsOperands operands (ta ++ comma ++ text) := by
  unfold second? at h
  split at h
  · next b hread =>
    simp only [Option.some.injEq] at h
    subst h
    obtain ⟨tb, hb, rfl⟩ := eq_append_of_register? hread
    rw [List.append_nil]
    exact .twoRegister ha hcomma hb
  · next b rest hne hread =>
    obtain ⟨tb, hb, rfl⟩ := eq_append_of_register? hread
    obtain ⟨after, hafter, hthird⟩ := Option.bind_eq_some_iff.1 h
    obtain ⟨comma₂, hcomma₂, rfl⟩ := eq_append_of_comma? hafter
    have hspells := spells_of_third? ha hcomma hb hcomma₂ hthird
    simpa only [List.append_assoc] using hspells
  · split at h
    · next offset rest hread =>
      obtain ⟨b, hbase, rfl⟩ := Option.map_eq_some_iff.1 h
      obtain ⟨hliteral, rfl⟩ := eq_append_of_literal? hread
      apply spells_of_base? ha hcomma _ hbase
      simpa using hliteral
    · obtain ⟨b, hbase, rfl⟩ := Option.map_eq_some_iff.1 h
      apply spells_of_base? ha hcomma _ hbase
      simp

theorem spells_of_operands? (h : operands? text = some operands) : SpellsOperands operands text := by
  unfold operands? at h
  split at h
  · next a hread =>
    simp only [Option.some.injEq] at h
    subst h
    obtain ⟨ta, ha, rfl⟩ := eq_append_of_register? hread
    rw [List.append_nil]
    exact .oneRegister ha
  · next a rest hne hread =>
    obtain ⟨ta, ha, rfl⟩ := eq_append_of_register? hread
    obtain ⟨after, hafter, hsecond⟩ := Option.bind_eq_some_iff.1 h
    obtain ⟨comma, hcomma, rfl⟩ := eq_append_of_comma? hafter
    have hspells := spells_of_second? ha hcomma hsecond
    simpa only [List.append_assoc] using hspells
  · split at h
    · next literal hread =>
      simp only [Option.some.injEq] at h
      subst h
      obtain ⟨hliteral, rfl⟩ := eq_append_of_literal? hread
      rw [List.append_nil]
      exact .jump hliteral
    · contradiction

theorem ofChars?_eq_some_iff : ofChars? text = some line ↔ line.Spells text := by
  constructor
  · intro h
    unfold ofChars? at h
    split at h
    · next mnemonic rest hword =>
      obtain ⟨operands, hrest, rfl⟩ := Option.map_eq_some_iff.1 h
      obtain ⟨after, hgap, hoperands⟩ := Option.bind_eq_some_iff.1 hrest
      obtain ⟨hmnemonic, rfl⟩ := eq_append_of_word? hword
      obtain ⟨gap, hblanks, hne, rfl⟩ := eq_append_of_gap? hgap
      rw [← List.append_assoc]
      exact .intro hmnemonic hblanks hne (spells_of_operands? hoperands)
    · contradiction
  · intro h
    cases h with
    | @intro gap operands hmnemonic hgap hne hoperands =>
      have hstop : Stops isWordChar (gap ++ operands) := hgap.stops_isWordChar.append hne
      unfold ofChars?
      rw [List.append_assoc, word?_append hmnemonic hstop]
      simp only [gap?_append hgap hne hoperands.stops_isBlank, Option.bind_some,
        operands?_of_spells hoperands, Option.map_some]

end Line
end MipsWord
