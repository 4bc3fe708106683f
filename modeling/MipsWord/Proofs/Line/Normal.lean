import MipsWord.Proofs.Line.Token
import MipsWord.Proofs.Text.Lower

namespace MipsWord

open Text

variable {line : Line} {operands : Operands String} {text front : List Char} {mnemonic : String}

def EndsInk (text : List Char) : Prop :=
  ∃ front c, text = front ++ [c] ∧ isBlank c = false

theorem EndsInk.append_left (h : EndsInk text) (front : List Char) : EndsInk (front ++ text) := by
  obtain ⟨more, c, rfl, hc⟩ := h
  exact ⟨front ++ more, c, (List.append_assoc ..).symm, hc⟩

theorem EndsInk.trimEnd_eq (h : EndsInk text) : trimEnd text = text := by
  obtain ⟨more, c, rfl, hc⟩ := h
  exact trimEnd_concat more hc

theorem IsWord.endsInk (h : IsWord text) : EndsInk text := by
  refine ⟨text.dropLast, text.getLast h.1, (List.dropLast_concat_getLast h.1).symm, ?_⟩
  exact isBlank_eq_false_of_isWordChar (h.2 _ (List.getLast_mem h.1))

theorem SpellsRegister.endsInk {register : String} (h : SpellsRegister register text) :
    EndsInk text := by
  cases h with
  | intro hword => exact hword.endsInk.append_left ['$']

theorem IsLiteral.endsInk (h : IsLiteral text) : EndsInk text := by
  cases h with
  | unsigned hdigit hmore => exact (isWord_of_digit hdigit hmore).endsInk
  | negative hdigit hmore => exact (isWord_of_digit hdigit hmore).endsInk.append_left ['-']

theorem SpellsOperands.endsInk (h : SpellsOperands operands text) : EndsInk text := by
  cases h with
  | threeRegister ha hcomma₁ hb hcomma₂ hc => exact hc.endsInk.append_left _
  | twoRegisterImmediate ha hcomma₁ hb hcomma₂ hliteral => exact hliteral.endsInk.append_left _
  | loadStore ha hcomma hoffset hs₁ hs₂ hb hs₃ => exact ⟨_, ')', rfl, by decide⟩
  | jump hliteral => exact hliteral.endsInk
  | twoRegister ha hcomma hb => exact hb.endsInk.append_left _
  | oneRegister ha => exact ha.endsInk

theorem trimStart_of_isWord (h : IsWord text) : trimStart text = text := by
  obtain ⟨hne, hchars⟩ := h
  cases text with
  | nil => contradiction
  | cons c more => exact trimStart_cons (isBlank_eq_false_of_isWordChar (hchars c List.mem_cons_self))

theorem normalize_append_blank (hne : trimStart front ≠ []) (hink : EndsInk text)
    (hlower : IsLower text) :
    Line.normalize (String.ofList (front ++ ' ' :: text)) = lower (trimStart front) ++ ' ' :: text := by
  have hstart : trimStart (front ++ ' ' :: text) = trimStart front ++ ' ' :: text := by
    unfold trimStart at hne ⊢
    rw [List.dropWhile_append, if_neg (by simpa using hne)]
  have hend : EndsInk (trimStart front ++ ' ' :: text) :=
    (hink.append_left [' ']).append_left (trimStart front)
  unfold Line.normalize trim
  rw [String.toList_ofList, hstart, hend.trimEnd_eq, lower_append_blank, lower_of_isLower hlower]

theorem normalize_of_blank (hblank : trimStart front = []) (hstart : Stops isBlank text)
    (hink : EndsInk text) (hlower : IsLower text) :
    Line.normalize (String.ofList (front ++ ' ' :: text)) = text := by
  have htext : trimStart (front ++ ' ' :: text) = text := by
    unfold trimStart at hblank ⊢
    rw [List.dropWhile_append, if_pos (by simp [hblank]), List.dropWhile_cons_of_pos (by decide)]
    exact dropWhile_append_of_stops (List.forall_mem_nil _) hstart
  unfold Line.normalize trim
  rw [String.toList_ofList, htext, hink.trimEnd_eq, lower_of_isLower hlower]

def leadingWord (text : String) : String :=
  String.ofList ((lower (trimStart text.toList)).takeWhile isWordChar)

theorem Line.Spells.mnemonic_eq (h : line.Spells text) :
    line.mnemonic = String.ofList (text.takeWhile isWordChar) := by
  cases h with
  | @intro gap operands hmnemonic hgap hne hoperands =>
    have hstop : Stops isWordChar (gap ++ operands) := hgap.stops_isWordChar.append hne
    rw [List.append_assoc, takeWhile_append_of_stops hmnemonic.2 hstop, String.ofList_toList]

theorem Line.Spells.isWord_mnemonic (h : line.Spells text) : IsWord line.mnemonic.toList := by
  cases h with
  | intro hmnemonic => exact hmnemonic

theorem Line.Spells.not_stops (h : line.Spells text) : ¬ Stops isWordChar text := by
  intro hstop
  apply h.isWord_mnemonic.1
  rw [h.mnemonic_eq, takeWhile_eq_nil_of_stops hstop, String.toList_ofList]

theorem Line.Spells.exists_isBlank (h : line.Spells text) : ∃ c ∈ text, isBlank c = true := by
  cases h with
  | @intro gap operands hmnemonic hgap hne hoperands =>
    obtain ⟨c, hc⟩ := List.exists_mem_of_ne_nil gap hne
    refine ⟨c, ?_, hgap c hc⟩
    simp [hc]

theorem IsLiteral.not_spells (h : IsLiteral text) : ¬ line.Spells text := by
  intro hline
  cases h with
  | unsigned hdigit hmore =>
    obtain ⟨c, hc, hblank⟩ := hline.exists_isBlank
    have hword : isWordChar c = true := (isWord_of_digit hdigit hmore).2 c hc
    rw [isWordChar_eq_false_of_isBlank hblank] at hword
    contradiction
  | negative hdigit hmore =>
    apply hline.not_stops
    rw [stops_cons]
    decide

theorem SpellsOperands.not_spells (h : SpellsOperands operands text) : ¬ line.Spells text := by
  intro hline
  cases h with
  -- No line starts with a dollar sign.
  | threeRegister ha | twoRegisterImmediate ha | loadStore ha | twoRegister ha =>
    apply hline.not_stops
    simp only [List.append_assoc]
    exact ha.stops_isWordChar.append ha.ne_nil
  | oneRegister ha => exact hline.not_stops ha.stops_isWordChar
  | jump hliteral => exact hliteral.not_spells hline

theorem leadingWord_of_isPlain (h : IsPlain mnemonic) : leadingWord mnemonic = mnemonic := by
  have hword := h.isWord
  have htake : mnemonic.toList.takeWhile isWordChar = mnemonic.toList := by
    simpa using takeWhile_append_of_stops hword.2 stops_nil
  rw [leadingWord, trimStart_of_isWord hword, lower_of_isLower h.isLower, htake, String.ofList_toList]

theorem Line.Spells.mnemonic_eq_leadingWord
    (h : line.Spells (Line.normalize (String.ofList (mnemonic.toList ++ ' ' :: text))))
    (hoperands : SpellsOperands operands text) (hlower : IsLower text) :
    line.mnemonic = leadingWord mnemonic := by
  by_cases hblank : trimStart mnemonic.toList = []
  · rw [normalize_of_blank hblank hoperands.stops_isBlank hoperands.endsInk hlower] at h
    exact absurd h hoperands.not_spells
  · rw [normalize_append_blank hblank hoperands.endsInk hlower] at h
    have hstop : Stops isWordChar (' ' :: text) := by
      rw [stops_cons]
      decide
    rw [h.mnemonic_eq, takeWhile_append_stops _ hstop, leadingWord]

theorem normalize_of_leadingWord_eq (hword : IsWord mnemonic.toList)
    (hown : leadingWord mnemonic = mnemonic) (hink : EndsInk text) (hlower : IsLower text) :
    Line.normalize (String.ofList (mnemonic.toList ++ ' ' :: text)) =
      mnemonic.toList ++ ' ' :: text := by
  have htrim := trimStart_of_isWord hword
  have hprefix : mnemonic.toList <+: lower mnemonic.toList := by
    have htake : (lower mnemonic.toList).takeWhile isWordChar = mnemonic.toList := by
      have hchars := congrArg String.toList hown
      rwa [leadingWord, htrim, String.toList_ofList] at hchars
    have htaken : (lower mnemonic.toList).takeWhile isWordChar <+: lower mnemonic.toList :=
      List.takeWhile_prefix isWordChar
    rwa [htake] at htaken
  rw [normalize_append_blank _ hink hlower, htrim, lower_eq_of_prefix hprefix]
  rw [htrim]
  exact hword.1

end MipsWord
