import MipsWord.Proofs.Line.Normal
import MipsWord.Proofs.Text.Division

namespace MipsWord

open Text

variable {ρ : Type} {operands : Operands ρ} {line : Line} {text before after : List Char}
  {literal : String}

namespace Operands

def withLiteral (literal : String) : Operands ρ → Operands ρ
  | threeRegister a b c => threeRegister a b c
  | twoRegisterImmediate a b _ => twoRegisterImmediate a b literal
  | loadStore a _ b => loadStore a (some literal) b
  | jump _ => jump literal
  | twoRegister a b => twoRegister a b
  | oneRegister a => oneRegister a

@[simp]
theorem grammar_withLiteral : (operands.withLiteral literal).grammar = operands.grammar := by
  cases operands <;> rfl

end Operands

def Line.withLiteral (line : Line) (literal : String) : Line :=
  { line with operands := line.operands.withLiteral literal }

theorem SpellsOperands.isLiteral {operands : Operands String} (h : SpellsOperands operands text)
    (hliteral : operands.literal? = some literal) : IsLiteral literal.toList := by
  cases h with
  | threeRegister | twoRegister | oneRegister => contradiction
  | twoRegisterImmediate ha hcomma₁ hb hcomma₂ hother =>
    obtain rfl := Option.some.inj hliteral
    exact hother
  | loadStore ha hcomma hoffset => exact hoffset literal hliteral
  | jump hother =>
    obtain rfl := Option.some.inj hliteral
    exact hother

theorem Line.Spells.isLiteral (h : line.Spells text) (hliteral : line.operands.literal? = some literal) :
    IsLiteral literal.toList := by
  cases h with
  | intro hmnemonic hgap hne hoperands => exact hoperands.isLiteral hliteral

def EndsApart (text : List Char) : Prop :=
  ∃ front c, text = front ++ [c] ∧ IsDivider c

def StartsApart (text : List Char) : Prop :=
  ∀ c ∈ text.head?, IsDivider c

theorem EndsApart.append_left (h : EndsApart text) (front : List Char) : EndsApart (front ++ text) := by
  obtain ⟨more, c, rfl, hc⟩ := h
  exact ⟨front ++ more, c, (List.append_assoc ..).symm, hc⟩

theorem IsBlanks.endsApart (h : IsBlanks text) (hne : text ≠ []) : EndsApart text :=
  ⟨text.dropLast, text.getLast hne, (List.dropLast_concat_getLast hne).symm,
    .inl (h _ (List.getLast_mem hne))⟩

theorem IsComma.endsApart (h : IsComma text) : EndsApart text := by
  cases h with
  | @intro before after hbefore hafter =>
    by_cases hne : after = []
    · rw [hne]
      exact ⟨before, ',', rfl, .inr (.inl rfl)⟩
    · rw [← List.singleton_append, ← List.append_assoc]
      exact (hafter.endsApart hne).append_left _

theorem IsBlanks.startsApart_append (h : IsBlanks text) (hafter : StartsApart after) :
    StartsApart (text ++ after) := by
  cases text with
  | nil => exact hafter
  | cons c text =>
    intro d hd
    rw [← Option.some.inj hd]
    exact .inl (h c List.mem_cons_self)

theorem StartsApart.append_blanks {blanks : List Char} (h : StartsApart text) (hblanks : IsBlanks blanks) :
    StartsApart (text ++ blanks) := by
  cases text with
  | nil =>
    intro c hc
    exact .inl (hblanks c (List.mem_of_mem_head? hc))
  | cons c text => exact h

/--
The text before and the text after the literal of some operands, which spell the operands whatever literal stands
between them.
-/
structure SurroundsLiteral (operands : Operands String) (before after : List Char) : Prop where
  endsApart : before = [] ∨ EndsApart before
  startsApart : StartsApart after
  spells : ∀ literal : String, IsLiteral literal.toList →
    SpellsOperands (operands.withLiteral literal) (before ++ (literal.toList ++ after))

theorem SpellsOperands.exists_surroundsLiteral {operands : Operands String} (h : SpellsOperands operands text)
    (hliteral : operands.literal? = some literal) :
    ∃ before after, text = before ++ (literal.toList ++ after) ∧
      SurroundsLiteral operands before after := by
  cases h with
  | threeRegister | twoRegister | oneRegister => contradiction
  | @twoRegisterImmediate a b other ta tb comma₁ comma₂ ha hcomma₁ hb hcomma₂ hother =>
    obtain rfl : other = literal := Option.some.inj hliteral
    refine ⟨ta ++ comma₁ ++ tb ++ comma₂, [], by rw [List.append_nil], ?_, nofun, ?_⟩
    · exact .inr (hcomma₂.endsApart.append_left _)
    · intro literal hliteral
      rw [List.append_nil]
      exact .twoRegisterImmediate ha hcomma₁ hb hcomma₂ hliteral
  | @loadStore a b offset ta tb comma s₁ s₂ s₃ ha hcomma hoffset hs₁ hs₂ hb hs₃ =>
    obtain rfl : offset = some literal := hliteral
    refine ⟨ta ++ comma, s₁ ++ '(' :: s₂ ++ tb ++ s₃ ++ [')'], by simp, ?_, ?_, ?_⟩
    · exact .inr (hcomma.endsApart.append_left _)
    · simp only [List.append_assoc, List.cons_append]
      apply hs₁.startsApart_append
      intro c hc
      exact .inr (.inr (Option.some.inj hc).symm)
    · intro literal hliteral
      have hoffset : ∀ other ∈ some literal, IsLiteral other.toList := by simpa using hliteral
      have hspells := SpellsOperands.loadStore ha hcomma hoffset hs₁ hs₂ hb hs₃
      simpa only [List.append_assoc, List.cons_append, Option.getD_some, Operands.withLiteral] using hspells
  | jump hother =>
    obtain rfl := Option.some.inj hliteral
    refine ⟨[], [], by simp, .inl rfl, nofun, ?_⟩
    intro literal hliteral
    rw [List.append_nil]
    exact .jump hliteral

theorem Line.Spells.exists_around (h : line.Spells text)
    (hliteral : line.operands.literal? = some literal) :
    ∃ before c after, IsDivider c ∧ StartsApart after ∧ text = before ++ c :: (literal.toList ++ after) ∧
      ∀ other : String, IsLiteral other.toList →
        (line.withLiteral other).Spells (before ++ c :: (other.toList ++ after)) := by
  cases h with
  | @intro gap operands hmnemonic hgap hne hoperands =>
    obtain ⟨before, after, rfl, hsurrounds⟩ := hoperands.exists_surroundsLiteral hliteral
    -- A literal that comes first among the operands has the blanks behind the mnemonic before it.
    obtain ⟨front, c, hfront, hc⟩ : EndsApart (line.mnemonic.toList ++ gap ++ before) := by
      obtain rfl | hbefore := hsurrounds.endsApart
      · rw [List.append_nil]
        exact (hgap.endsApart hne).append_left _
      · exact hbefore.append_left _
    have hjoin : ∀ text : List Char,
        line.mnemonic.toList ++ gap ++ (before ++ text) = front ++ c :: text := by
      intro text
      rw [← List.append_assoc, hfront, List.append_assoc, List.singleton_append]
    refine ⟨front, c, after, hc, hsurrounds.startsApart, hjoin _, ?_⟩
    intro other hother
    rw [← hjoin]
    exact .intro hmnemonic hgap hne (hsurrounds.spells other hother)

theorem Line.Spells.trim_eq (h : line.Spells text) : trim text = text := by
  cases h with
  | @intro gap operands hmnemonic hgap hne hoperands =>
    have hstart : trimStart (line.mnemonic.toList ++ gap ++ operands)
        = line.mnemonic.toList ++ gap ++ operands := by
      rw [List.append_assoc]
      apply trimStart_of_stops
      apply Stops.append _ hmnemonic.1
      intro c hc
      exact isBlank_eq_false_of_isWordChar (hmnemonic.2 c (List.mem_of_mem_head? hc))
    unfold trim
    rw [hstart, (hoperands.endsInk.append_left _).trimEnd_eq]

theorem exists_blanks_append_trim (text : List Char) :
    ∃ s t, IsBlanks s ∧ IsBlanks t ∧ text = s ++ (trim text ++ t) := by
  obtain ⟨s, hs, htext⟩ := Line.exists_blanks_append_trimStart text
  obtain ⟨t, ht, hend⟩ := Line.exists_blanks_append_trimStart (trimStart text).reverse
  refine ⟨s, t.reverse, hs, ?_, ?_⟩
  · intro c hc
    exact ht c (List.mem_reverse.1 hc)
  · have htrim : trimStart text = trim text ++ t.reverse := by
      rw [← List.reverse_reverse (trimStart text), hend, List.reverse_append]
      rfl
    rw [← htrim, ← htext]

theorem exists_append_of_lower_eq_append (hafter : StartsApart after)
    (h : lower text = before ++ after) :
    ∃ written back, text = written ++ back ∧ lower written = before ∧
      ∀ front, lower (front ++ back) = lower front ++ after := by
  cases after with
  | nil =>
    refine ⟨text, [], (List.append_nil text).symm, by rw [h, List.append_nil], ?_⟩
    intro front
    rw [List.append_nil, List.append_nil]
  | cons c after =>
    have hc : IsDivider c := hafter c rfl
    obtain ⟨written, back, rfl, hwritten, rfl⟩ := exists_append_of_lower hc h
    refine ⟨written, c :: back, rfl, hwritten, ?_⟩
    intro front
    exact lower_append_caseless hc.caseless front back

theorem Line.Spells.exists_written {text : String} (h : line.Spells (normalize text))
    (hliteral : line.operands.literal? = some literal) :
    ∃ front written back, text.toList = front ++ (written ++ back) ∧ lower written = literal.toList ∧
      ∀ (other : String) (again : List Char), IsLiteral other.toList → lower again = other.toList →
        (line.withLiteral other).Spells (normalize (String.ofList (front ++ (again ++ back)))) := by
  obtain ⟨before, c, after, hc, hafter, htext, hspells⟩ := h.exists_around hliteral
  obtain ⟨s, t, hs, ht, hends⟩ := exists_blanks_append_trim (lower text.toList)
  rw [trim_lower, show lower (trim text.toList) = _ from htext] at hends
  have hlower : lower text.toList = (s ++ before) ++ c :: (literal.toList ++ (after ++ t)) := by
    rw [hends]
    simp
  obtain ⟨front, rest, hsplit, hfront, hrest⟩ := exists_append_of_lower hc hlower
  obtain ⟨written, back, rfl, hwritten, hback⟩ :=
    exists_append_of_lower_eq_append (hafter.append_blanks ht) hrest
  refine ⟨front ++ [c], written, back, ?_, hwritten, ?_⟩
  · rw [hsplit, List.append_assoc, List.singleton_append]
  · intro other again hother hagain
    have hjoin : lower (front ++ [c] ++ (again ++ back))
        = s ++ ((before ++ c :: (other.toList ++ after)) ++ t) := by
      rw [List.append_assoc, List.singleton_append, lower_append_caseless hc.caseless, hfront, hback, hagain]
      simp
    have hnormal : normalize (String.ofList (front ++ [c] ++ (again ++ back)))
        = before ++ c :: (other.toList ++ after) :=
      calc normalize (String.ofList (front ++ [c] ++ (again ++ back)))
        _ = trim (lower (front ++ [c] ++ (again ++ back))) := by
          rw [normalize, String.toList_ofList, trim_lower]
        _ = trim (before ++ c :: (other.toList ++ after)) := by
          rw [hjoin, trim_blanks_append hs, trim_append_blanks _ ht]
        _ = before ++ c :: (other.toList ++ after) := (hspells other hother).trim_eq
    rw [hnormal]
    exact hspells other hother

end MipsWord
