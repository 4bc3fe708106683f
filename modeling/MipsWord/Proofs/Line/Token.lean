import MipsWord.Line.Form
import MipsWord.Line.Reader
import MipsWord.Proofs.Text.Run

namespace MipsWord

open Text

section Spelling

variable {register literal : String} {text rest : List Char}

theorem SpellsRegister.eq_cons (h : SpellsRegister register text) :
    text = '$' :: register.toList := by
  cases h
  rfl

theorem SpellsRegister.ne_nil (h : SpellsRegister register text) : text ≠ [] := by
  simp [h.eq_cons]

theorem SpellsRegister.stops_isBlank (h : SpellsRegister register text) : Stops isBlank text := by
  rw [h.eq_cons, stops_cons]
  decide

theorem SpellsRegister.stops_isWordChar (h : SpellsRegister register text) :
    Stops isWordChar text := by
  rw [h.eq_cons, stops_cons]
  decide

theorem isWord_of_digit {digit : Char} {more : List Char} (hdigit : isDecimalDigit digit = true)
    (hmore : ∀ c ∈ more, isWordChar c = true) : IsWord (digit :: more) := by
  refine ⟨by simp, ?_⟩
  exact List.forall_mem_cons.2 ⟨isWordChar_of_isDecimalDigit hdigit, hmore⟩

theorem IsLiteral.ne_nil (h : IsLiteral text) : text ≠ [] := by
  cases h <;> simp

theorem IsLiteral.stops_isBlank (h : IsLiteral text) : Stops isBlank text := by
  cases h with
  | unsigned hdigit hmore =>
    rw [stops_cons]
    apply isBlank_eq_false_of_isWordChar
    apply isWordChar_of_isDecimalDigit hdigit
  | negative hdigit hmore =>
    rw [stops_cons]
    decide

theorem IsLiteral.stops_dollar (h : IsLiteral text) : Stops (· == '$') text := by
  cases h with
  | unsigned hdigit hmore =>
    rw [stops_cons, beq_eq_false_iff_ne]
    rintro rfl
    exact absurd hdigit (by decide)
  | negative hdigit hmore =>
    rw [stops_cons]
    decide

theorem IsComma.ne_nil (h : IsComma text) : text ≠ [] := by
  cases h
  simp

theorem IsComma.stops_isWordChar (h : IsComma text) : Stops isWordChar text := by
  cases h with
  | intro hbefore hafter =>
    apply stops_blanks_append hbefore isWordChar_eq_false_of_isBlank
    rw [stops_cons]
    decide

theorem IsComma.append_blanks {blanks : List Char} (h : IsComma text) (hblanks : IsBlanks blanks) :
    IsComma (text ++ blanks) := by
  cases h with
  | intro hbefore hafter =>
    rw [List.append_assoc, List.cons_append]
    apply IsComma.intro hbefore
    intro c hc
    cases List.mem_append.1 hc with
    | inl hc => exact hafter c hc
    | inr hc => exact hblanks c hc

theorem IsBlanks.stops_isWordChar (h : IsBlanks text) : Stops isWordChar text := by
  simpa using stops_blanks_append h isWordChar_eq_false_of_isBlank stops_nil

theorem SpellsOperands.stops_isBlank {operands : Operands String}
    (h : SpellsOperands operands text) : Stops isBlank text := by
  cases h with
  | threeRegister ha | twoRegisterImmediate ha | loadStore ha | twoRegister ha =>
    simp only [List.append_assoc]
    exact ha.stops_isBlank.append ha.ne_nil
  | jump hliteral => exact hliteral.stops_isBlank
  | oneRegister ha => exact ha.stops_isBlank

end Spelling

namespace Line

variable {token : String} {text rest : List Char}

theorem trimStart_append {blanks : List Char} (hblanks : IsBlanks blanks)
    (hrest : Stops isBlank rest) : trimStart (blanks ++ rest) = rest := by
  unfold trimStart
  exact dropWhile_append_of_stops hblanks hrest

theorem exists_blanks_append_trimStart (text : List Char) :
    ∃ blanks, IsBlanks blanks ∧ text = blanks ++ trimStart text := by
  refine ⟨text.takeWhile isBlank, ?_, ?_⟩
  · intro c hc
    exact List.all_eq_true.1 List.all_takeWhile c hc
  · exact List.takeWhile_append_dropWhile.symm

theorem word?_append (hword : IsWord token.toList) (hrest : Stops isWordChar rest) :
    word? (token.toList ++ rest) = some (token, rest) := by
  unfold word?
  rw [takeWhile_append_of_stops hword.2 hrest, dropWhile_append_of_stops hword.2 hrest]
  split
  · next hnil => exact absurd hnil hword.1
  · rw [String.ofList_toList]

theorem eq_append_of_word? (h : word? text = some (token, rest)) :
    IsWord token.toList ∧ text = token.toList ++ rest := by
  unfold word? at h
  split at h
  · contradiction
  · next word hne =>
    simp only [Option.some.injEq, Prod.mk.injEq] at h
    obtain ⟨rfl, rfl⟩ := h
    rw [String.toList_ofList, List.takeWhile_append_dropWhile]
    refine ⟨⟨hne, ?_⟩, rfl⟩
    intro c hc
    exact List.all_eq_true.1 List.all_takeWhile c hc

theorem register?_append {register : List Char} (h : SpellsRegister token register)
    (hrest : Stops isWordChar rest) : register? (register ++ rest) = some (token, rest) := by
  cases h with
  | intro hword =>
    rw [List.cons_append, register?]
    exact word?_append hword hrest

theorem register?_eq_none (h : Stops (· == '$') text) : register? text = none := by
  unfold register?
  split
  · simp at h
  · rfl

theorem eq_append_of_register? (h : register? text = some (token, rest)) :
    ∃ register, SpellsRegister token register ∧ text = register ++ rest := by
  unfold register? at h
  split at h
  · next body =>
    obtain ⟨hword, rfl⟩ := eq_append_of_word? h
    exact ⟨_, .intro hword, rfl⟩
  · contradiction

theorem literal?_append (h : IsLiteral token.toList) (hrest : Stops isWordChar rest) :
    literal? (token.toList ++ rest) = some (token, rest) := by
  generalize htoken : token.toList = chars at h
  have heq : token = String.ofList chars := by rw [← htoken, String.ofList_toList]
  subst heq
  cases h with
  | @unsigned digit more hdigit hmore =>
    have hword := (isWord_of_digit hdigit hmore).2
    -- No digit is a minus sign, so that no sign is taken.
    have hminus : digit ≠ '-' := by
      rintro rfl
      exact absurd hdigit (by decide)
    unfold literal?
    split
    next sign body hsplit =>
    split at hsplit
    · next body' hcons => simp_all
    · simp only [Prod.mk.injEq] at hsplit
      obtain ⟨rfl, rfl⟩ := hsplit
      rw [takeWhile_append_of_stops hword hrest, dropWhile_append_of_stops hword hrest]
      simp [hdigit]
  | @negative digit more hdigit hmore =>
    have hword := (isWord_of_digit hdigit hmore).2
    unfold literal?
    simp only [List.cons_append]
    rw [← List.cons_append, takeWhile_append_of_stops hword hrest,
      dropWhile_append_of_stops hword hrest]
    simp [hdigit]

theorem literal?_eq_none (hword : Stops isWordChar text) (hminus : Stops (· == '-') text) :
    literal? text = none := by
  unfold literal?
  split
  next sign body hsplit =>
  split at hsplit
  · simp at hminus
  · simp only [Prod.mk.injEq] at hsplit
    obtain ⟨rfl, rfl⟩ := hsplit
    rw [takeWhile_eq_nil_of_stops hword]

theorem eq_append_of_literal? (h : literal? text = some (token, rest)) :
    IsLiteral token.toList ∧ text = token.toList ++ rest := by
  unfold literal? at h
  split at h
  next sign body hsplit =>
  split at h
  · contradiction
  · next digit more htake =>
    -- The run after the sign, put together again with what follows it.
    have hbody : digit :: more ++ body.dropWhile isWordChar = body := by
      rw [← htake, List.takeWhile_append_dropWhile]
    have hmore : ∀ c ∈ more, isWordChar c = true := by
      intro c hc
      apply List.all_eq_true.1 List.all_takeWhile c
      rw [htake]
      exact List.mem_cons_of_mem digit hc
    split at h
    · next hdigit =>
      simp only [Option.some.injEq, Prod.mk.injEq] at h
      obtain ⟨rfl, rfl⟩ := h
      rw [String.toList_ofList]
      split at hsplit
      · next tail =>
        simp only [Prod.mk.injEq] at hsplit
        obtain ⟨rfl, rfl⟩ := hsplit
        refine ⟨.negative hdigit hmore, ?_⟩
        rw [List.append_assoc, hbody]
        rfl
      · simp only [Prod.mk.injEq] at hsplit
        obtain ⟨rfl, rfl⟩ := hsplit
        refine ⟨.unsigned hdigit hmore, ?_⟩
        rw [List.append_assoc, hbody]
        rfl
    · contradiction

theorem gap?_append {gap : List Char} (hgap : IsBlanks gap) (hne : gap ≠ [])
    (hrest : Stops isBlank rest) : gap? (gap ++ rest) = some rest := by
  cases gap with
  | nil => contradiction
  | cons c gap =>
    have hc : isBlank c = true := hgap c (by simp)
    have hblanks : IsBlanks gap := fun b hb => hgap b (List.mem_cons_of_mem c hb)
    rw [List.cons_append, gap?, if_pos hc, trimStart_append hblanks hrest]

theorem eq_append_of_gap? (h : gap? text = some rest) :
    ∃ gap, IsBlanks gap ∧ gap ≠ [] ∧ text = gap ++ rest := by
  unfold gap? at h
  split at h
  · next c tail =>
    split at h
    · next hc =>
      simp only [Option.some.injEq] at h
      subst h
      obtain ⟨blanks, hblanks, htail⟩ := exists_blanks_append_trimStart tail
      refine ⟨c :: blanks, ?_, by simp, ?_⟩
      · simp only [IsBlanks, List.mem_cons, forall_eq_or_imp]
        exact ⟨hc, hblanks⟩
      · rw [List.cons_append, ← htail]
    · contradiction
  · contradiction

theorem comma?_append {comma : List Char} (hcomma : IsComma comma) (hrest : Stops isBlank rest) :
    comma? (comma ++ rest) = some rest := by
  cases hcomma with
  | @intro before after hbefore hafter =>
    have htrim : trimStart (before ++ ',' :: (after ++ rest)) = ',' :: (after ++ rest) := by
      apply trimStart_append hbefore
      rw [stops_cons]
      decide
    unfold comma?
    rw [List.append_assoc, List.cons_append, htrim]
    simp only [trimStart_append hafter hrest]

theorem eq_append_of_comma? (h : comma? text = some rest) :
    ∃ comma, IsComma comma ∧ text = comma ++ rest := by
  unfold comma? at h
  split at h
  · next tail htrim =>
    simp only [Option.some.injEq] at h
    subst h
    obtain ⟨before, hbefore, htext⟩ := exists_blanks_append_trimStart text
    obtain ⟨after, hafter, htail⟩ := exists_blanks_append_trimStart tail
    refine ⟨before ++ ',' :: after, .intro hbefore hafter, ?_⟩
    rw [List.append_assoc, List.cons_append, ← htail, ← htrim, ← htext]
  · contradiction

theorem base?_append {register s₁ s₂ s₃ : List Char} (hs₁ : IsBlanks s₁) (hs₂ : IsBlanks s₂)
    (hregister : SpellsRegister token register) (hs₃ : IsBlanks s₃) :
    base? (s₁ ++ '(' :: (s₂ ++ (register ++ (s₃ ++ [')'])))) = some token := by
  have hclose : Stops isBlank [')'] := by
    rw [stops_cons]
    decide
  have hopen : trimStart (s₁ ++ '(' :: (s₂ ++ (register ++ (s₃ ++ [')']))))
      = '(' :: (s₂ ++ (register ++ (s₃ ++ [')']))) := by
    apply trimStart_append hs₁
    rw [stops_cons]
    decide
  have hread : register? (register ++ (s₃ ++ [')'])) = some (token, s₃ ++ [')']) := by
    apply register?_append hregister
    apply stops_blanks_append hs₃ isWordChar_eq_false_of_isBlank
    rw [stops_cons]
    decide
  unfold base?
  rw [hopen]
  simp only [trimStart_append hs₂ (hregister.stops_isBlank.append hregister.ne_nil), hread]
  rw [trimStart_append hs₃ hclose, if_pos rfl]

theorem eq_append_of_base? (h : base? text = some token) :
    ∃ s₁ s₂ register s₃, IsBlanks s₁ ∧ IsBlanks s₂ ∧ SpellsRegister token register ∧ IsBlanks s₃ ∧
      text = s₁ ++ '(' :: (s₂ ++ (register ++ (s₃ ++ [')']))) := by
  unfold base? at h
  split at h
  · next inner hopen =>
    split at h
    · next token' rest hread =>
      split at h
      · next hclose =>
        simp only [Option.some.injEq] at h
        subst h
        obtain ⟨s₁, hs₁, htext⟩ := exists_blanks_append_trimStart text
        obtain ⟨s₂, hs₂, hinner⟩ := exists_blanks_append_trimStart inner
        obtain ⟨register, hregister, htrim⟩ := eq_append_of_register? hread
        obtain ⟨s₃, hs₃, hrest⟩ := exists_blanks_append_trimStart rest
        refine ⟨s₁, s₂, register, s₃, hs₁, hs₂, hregister, hs₃, ?_⟩
        rw [← hclose, ← hrest, ← htrim, ← hinner, ← hopen, ← htext]
      · contradiction
    · contradiction
  · contradiction

end Line
end MipsWord
