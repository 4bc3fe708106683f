import Mathlib.Data.List.TakeWhile
import MipsWord.Proofs.Text.Lower
import MipsWord.Proofs.Text.Run

/-!
This module contains texts that differ in their blanks or in the case of their ASCII letters. Every row of
blanks can be squeezed into a single space, which changes neither what a run of other characters is cut off
from, nor what the text is trimmed or lower-cased to.
-/

namespace MipsWord.Text

variable {text xs ys front back blanks : List Char} {c : Char} {p : Char → Bool}

/--
The text with one space in place of each row of blanks.
-/
def squeeze : List Char → List Char
  | [] => []
  | c :: rest => if isBlank c then ' ' :: trimStart (squeeze rest) else c :: squeeze rest

theorem squeeze_cons_of_blank (hc : isBlank c = true) :
    squeeze (c :: text) = ' ' :: trimStart (squeeze text) :=
  if_pos hc

theorem squeeze_cons_of_ink (hc : isBlank c = false) : squeeze (c :: text) = c :: squeeze text :=
  if_neg (by simp [hc])

theorem exists_squeeze_cons (c : Char) (text : List Char) :
    ∃ d more, squeeze (c :: text) = d :: more := by
  unfold squeeze
  split
  · exact ⟨_, _, rfl⟩
  · exact ⟨_, _, rfl⟩

theorem squeeze_eq_nil_iff : squeeze text = [] ↔ text = [] := by
  cases text with
  | nil => exact Iff.rfl
  | cons c text =>
    obtain ⟨d, more, h⟩ := exists_squeeze_cons c text
    simp [h]

theorem squeeze_eq_singleton_iff (hc : isBlank c = false) : squeeze text = [c] ↔ text = [c] := by
  cases text with
  | nil => exact Iff.rfl
  | cons d text =>
    cases hd : isBlank d with
    | true =>
      have hspace : isBlank ' ' = true := by decide
      rw [squeeze_cons_of_blank hd]
      constructor
      · intro h
        rw [(List.cons.inj h).1, hc] at hspace
        contradiction
      · intro h
        rw [(List.cons.inj h).1, hc] at hd
        contradiction
    | false => rw [squeeze_cons_of_ink hd, List.cons.injEq, List.cons.injEq, squeeze_eq_nil_iff]

theorem trimStart_cons_of_blank (hc : isBlank c = true) : trimStart (c :: text) = trimStart text :=
  List.dropWhile_cons_of_pos hc

theorem trimStart_of_stops (h : Stops isBlank text) : trimStart text = text :=
  dropWhile_append_of_stops (List.forall_mem_nil _) h

theorem trimStart_trimStart (text : List Char) : trimStart (trimStart text) = trimStart text :=
  trimStart_of_stops stops_dropWhile

theorem trimStart_squeeze (text : List Char) : trimStart (squeeze text) = squeeze (trimStart text) := by
  induction text with
  | nil => rfl
  | cons c text ih =>
    cases hc : isBlank c with
    | true =>
      rw [squeeze_cons_of_blank hc, trimStart_cons_of_blank hc, trimStart_cons_of_blank (by decide),
        trimStart_trimStart, ih]
    | false => rw [squeeze_cons_of_ink hc, trimStart_cons hc, trimStart_cons hc, squeeze_cons_of_ink hc]

theorem takeWhile_squeeze (hp : ∀ {c}, isBlank c = true → p c = false) (text : List Char) :
    (squeeze text).takeWhile p = text.takeWhile p := by
  induction text with
  | nil => rfl
  | cons c text ih =>
    cases hc : isBlank c with
    | true =>
      have hspace : p ' ' = false := hp (by decide)
      rw [squeeze_cons_of_blank hc, takeWhile_eq_nil_of_stops (stops_cons.2 hspace),
        takeWhile_eq_nil_of_stops (stops_cons.2 (hp hc))]
    | false => rw [squeeze_cons_of_ink hc, List.takeWhile_cons, List.takeWhile_cons, ih]

theorem dropWhile_squeeze (hp : ∀ {c}, isBlank c = true → p c = false) (text : List Char) :
    (squeeze text).dropWhile p = squeeze (text.dropWhile p) := by
  induction text with
  | nil => rfl
  | cons c text ih =>
    cases hc : isBlank c with
    | true =>
      have hspace : p ' ' = false := hp (by decide)
      rw [List.dropWhile_cons_of_neg (by simp [hp hc]), squeeze_cons_of_blank hc,
        List.dropWhile_cons_of_neg (by simp [hspace])]
    | false =>
      rw [squeeze_cons_of_ink hc, List.dropWhile_cons, List.dropWhile_cons, ih]
      split
      · rfl
      · rw [squeeze_cons_of_ink hc]

instance : Decidable (IsBlanks text) :=
  decidable_of_iff (text.all isBlank = true) List.all_eq_true

theorem squeeze_append_congr (front : List Char) (h : squeeze xs = squeeze ys) :
    squeeze (front ++ xs) = squeeze (front ++ ys) := by
  induction front with
  | nil => exact h
  | cons c front ih =>
    rw [List.cons_append, List.cons_append, squeeze, squeeze, ih]

theorem squeeze_blanks_append (hblanks : IsBlanks blanks) (hne : blanks ≠ []) (text : List Char) :
    squeeze (blanks ++ text) = ' ' :: trimStart (squeeze text) := by
  induction blanks with
  | nil => contradiction
  | cons c blanks ih =>
    obtain ⟨hc, hrest⟩ := List.forall_mem_cons.1 hblanks
    rw [List.cons_append, squeeze_cons_of_blank hc]
    by_cases hnil : blanks = []
    · rw [hnil, List.nil_append]
    · rw [ih hrest hnil, trimStart_cons_of_blank (by decide), trimStart_trimStart]

theorem trimStart_eq_nil_iff : trimStart text = [] ↔ IsBlanks text :=
  List.dropWhile_eq_nil_iff

theorem trimEnd_eq_nil_iff : trimEnd text = [] ↔ IsBlanks text := by
  unfold trimEnd IsBlanks
  rw [List.reverse_eq_nil_iff, List.dropWhile_eq_nil_iff]
  simp only [List.mem_reverse]

theorem trimStart_blanks_append (h : IsBlanks blanks) (text : List Char) :
    trimStart (blanks ++ text) = trimStart text :=
  List.dropWhile_append_of_pos h

theorem trimStart_append_of_not_blanks (h : ¬ IsBlanks front) (text : List Char) :
    trimStart (front ++ text) = trimStart front ++ text := by
  have hne : trimStart front ≠ [] := mt trimStart_eq_nil_iff.1 h
  unfold trimStart at hne ⊢
  rw [List.dropWhile_append, if_neg (by simpa using hne)]

theorem trimEnd_append_blanks (text : List Char) (h : IsBlanks blanks) :
    trimEnd (text ++ blanks) = trimEnd text := by
  unfold trimEnd
  rw [List.reverse_append, List.dropWhile_append_of_pos]
  intro c hc
  exact h c (List.mem_reverse.1 hc)

theorem trimEnd_append_of_not_blanks (text : List Char) (h : ¬ IsBlanks back) :
    trimEnd (text ++ back) = text ++ trimEnd back := by
  have hne : back.reverse.dropWhile isBlank ≠ [] := by
    have hend : trimEnd back ≠ [] := mt trimEnd_eq_nil_iff.1 h
    exact mt List.reverse_eq_nil_iff.2 hend
  unfold trimEnd
  rw [List.reverse_append, List.dropWhile_append, if_neg (by simpa using hne), List.reverse_append,
    List.reverse_reverse]

theorem trim_blanks_append (h : IsBlanks blanks) (text : List Char) :
    trim (blanks ++ text) = trim text := by
  unfold trim
  rw [trimStart_blanks_append h]

theorem trim_append_blanks (text : List Char) (h : IsBlanks blanks) :
    trim (text ++ blanks) = trim text := by
  unfold trim
  by_cases htext : IsBlanks text
  · rw [trimStart_blanks_append htext, trimStart_eq_nil_iff.2 h, trimStart_eq_nil_iff.2 htext]
  · rw [trimStart_append_of_not_blanks htext, trimEnd_append_blanks _ h]

theorem trim_append_append (hfront : ¬ IsBlanks front) (hback : ¬ IsBlanks back) (text : List Char) :
    trim (front ++ (text ++ back)) = trimStart front ++ (text ++ trimEnd back) := by
  unfold trim
  rw [trimStart_append_of_not_blanks hfront, ← List.append_assoc,
    trimEnd_append_of_not_blanks _ hback, List.append_assoc]

theorem lower_blanks_append (hblanks : IsBlanks blanks) (text : List Char) :
    lower (blanks ++ text) = blanks ++ lower text := by
  induction blanks with
  | nil => rfl
  | cons c blanks ih =>
    obtain ⟨hc, hrest⟩ := List.forall_mem_cons.1 hblanks
    rw [List.cons_append, lower_cons_caseless (caseless_of_isBlank c hc), ih hrest, List.cons_append]

theorem lower_append_blanks_append (front : List Char) (hblanks : IsBlanks blanks) (hne : blanks ≠ [])
    (text : List Char) : lower (front ++ (blanks ++ text)) = lower front ++ (blanks ++ lower text) := by
  cases blanks with
  | nil => contradiction
  | cons c blanks =>
    obtain ⟨hc, hrest⟩ := List.forall_mem_cons.1 hblanks
    rw [List.cons_append, lower_append_caseless (caseless_of_isBlank c hc), lower_blanks_append hrest,
      List.cons_append]

/--
A character and its ASCII lower case form cannot be told apart once a text is in lower case.
-/
structure SameWhenLowered (c d : Char) : Prop where
  isBlank_eq : isBlank d = isBlank c
  isCased_eq : isCased d = isCased c
  isCaseIgnorable_eq : isCaseIgnorable d = isCaseIgnorable c
  lowerChar_eq : lowerChar d = lowerChar c
  sigma_iff : d = 'Σ' ↔ c = 'Σ'

theorem isCaseIgnorable_of_letter (h : (65 ≤ c.toNat ∧ c.toNat ≤ 90) ∨ (97 ≤ c.toNat ∧ c.toNat ≤ 122)) :
    isCaseIgnorable c = false := by
  have hranges : ∀ r ∈ caseIgnorableRanges, (r.2 < 65 ∨ 90 < r.1) ∧ (r.2 < 97 ∨ 122 < r.1) := by
    decide +kernel
  rw [isCaseIgnorable, Bool.eq_false_iff, Ne, inRanges_iff]
  rintro ⟨r, hr, hfirst, hlast⟩
  obtain ⟨hcapital, hsmall⟩ := hranges r hr
  omega

theorem toLower_eq_self (h : ¬ (65 ≤ c.toNat ∧ c.toNat ≤ 90)) : c.toLower = c :=
  dif_neg h

theorem sameWhenLowered_toLower (c : Char) : SameWhenLowered c c.toLower := by
  -- Only the 26 capital letters of ASCII have another ASCII lower case form.
  have hcapitals : ∀ c : Char, c.toNat < 128 → 65 ≤ c.toNat ∧ c.toNat ≤ 90 →
      (97 ≤ c.toLower.toNat ∧ c.toLower.toNat ≤ 122) ∧ isBlank c.toLower = isBlank c ∧
        isCased c.toLower = isCased c ∧ lowerChar c.toLower = lowerChar c ∧
        (c.toLower = 'Σ' ↔ c = 'Σ') := by
    apply forall_char_of_lt
    decide +kernel
  by_cases hc : 65 ≤ c.toNat ∧ c.toNat ≤ 90
  · obtain ⟨hsmall, hblank, hcased, hform, hsigma⟩ := hcapitals c (by omega) hc
    refine ⟨hblank, hcased, ?_, hform, hsigma⟩
    rw [isCaseIgnorable_of_letter (.inl hc), isCaseIgnorable_of_letter (.inr hsmall)]
  · rw [toLower_eq_self hc]
    exact ⟨rfl, rfl, rfl, rfl, Iff.rfl⟩

theorem trimStart_map_toLower (text : List Char) :
    trimStart (text.map Char.toLower) = (trimStart text).map Char.toLower := by
  have hblank : isBlank ∘ Char.toLower = isBlank :=
    funext fun c => (sameWhenLowered_toLower c).isBlank_eq
  unfold trimStart
  rw [List.dropWhile_map, hblank]

theorem trim_map_toLower (text : List Char) :
    trim (text.map Char.toLower) = (trim text).map Char.toLower := by
  have hend : ∀ text : List Char, trimEnd text = (trimStart text.reverse).reverse := fun _ => rfl
  unfold trim
  rw [hend, hend, trimStart_map_toLower, ← List.map_reverse, trimStart_map_toLower, List.map_reverse]

theorem startsCased_cons (c : Char) (text : List Char) :
    startsCased (c :: text) = if isCaseIgnorable c then startsCased text else isCased c := by
  unfold startsCased
  rw [List.find?_cons]
  cases isCaseIgnorable c <;> rfl

theorem startsCased_map_toLower (text : List Char) :
    startsCased (text.map Char.toLower) = startsCased text := by
  induction text with
  | nil => rfl
  | cons c text ih =>
    obtain ⟨-, hcased, hignorable, -, -⟩ := sameWhenLowered_toLower c
    rw [List.map_cons, startsCased_cons, startsCased_cons, ih, hcased, hignorable]

theorem lower_go_map_toLower (afterCased : Bool) (text : List Char) :
    lower.go afterCased (text.map Char.toLower) = lower.go afterCased text := by
  induction text generalizing afterCased with
  | nil => rfl
  | cons c text ih =>
    obtain ⟨-, hcased, hignorable, hform, hsigma⟩ := sameWhenLowered_toLower c
    have hat : ∀ final, lowerAt final c.toLower = lowerAt final c := by
      intro final
      simp only [lowerAt, hsigma, hform]
    rw [List.map_cons, lower_go_cons, lower_go_cons, startsCased_map_toLower, ih, hcased, hignorable, hat]

theorem lower_map_toLower (text : List Char) : lower (text.map Char.toLower) = lower text :=
  lower_go_map_toLower false text

end MipsWord.Text
