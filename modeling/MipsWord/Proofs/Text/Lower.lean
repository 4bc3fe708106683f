import MipsWord.Line.Form
import MipsWord.Line.Reader

namespace MipsWord
namespace Text

variable {text xs ys : List Char}

def IsLower (text : List Char) : Prop :=
  ∀ c ∈ text, c.toNat < 128 ∧ c.toLower = c

theorem isLower_of_all (h : (text.all fun c => c.toNat < 128 ∧ c.toLower = c) = true) :
    IsLower text := by
  intro c hc
  exact of_decide_eq_true (List.all_eq_true.1 h c hc)

theorem isLower_nil : IsLower [] :=
  List.forall_mem_nil _

theorem isLower_append : IsLower (xs ++ ys) ↔ IsLower xs ∧ IsLower ys :=
  List.forall_mem_append

theorem isLower_cons {c : Char} :
    IsLower (c :: text) ↔ (c.toNat < 128 ∧ c.toLower = c) ∧ IsLower text :=
  List.forall_mem_cons

def lowerAt (final : Bool) (c : Char) : List Char :=
  if c = 'Σ' then [if final then 'ς' else 'σ'] else lowerChar c

theorem lower_go_cons (afterCased : Bool) (c : Char) (text : List Char) :
    lower.go afterCased (c :: text) = lowerAt (afterCased && !startsCased text) c ++
      lower.go (if isCaseIgnorable c then afterCased else isCased c) text :=
  rfl

theorem lower_go_of_isLower (h : IsLower text) (afterCased : Bool) :
    lower.go afterCased text = text := by
  induction text generalizing afterCased with
  | nil => rfl
  | cons c text ih =>
    obtain ⟨⟨hascii, hlower⟩, hrest⟩ := isLower_cons.1 h
    -- Only a sigma has a lower case form that depends on its neighbours.
    have hsigma : c ≠ 'Σ' := by
      rintro rfl
      revert hascii
      decide
    rw [lower_go_cons, lowerAt, if_neg hsigma, ih hrest, lowerChar, if_pos hascii, hlower]
    rfl

theorem lower_of_isLower (h : IsLower text) : lower text = text :=
  lower_go_of_isLower h false

/--
A character that ends every word for the purposes of case, and that has no lower case form but itself.
-/
structure Caseless (c : Char) : Prop where
  notIgnorable : isCaseIgnorable c = false
  notCased : isCased c = false
  lowerChar_eq : lowerChar c = [c]

instance {c : Char} : Decidable (Caseless c) :=
  decidable_of_iff (isCaseIgnorable c = false ∧ isCased c = false ∧ lowerChar c = [c])
    ⟨fun h => ⟨h.1, h.2.1, h.2.2⟩, fun h => ⟨h.notIgnorable, h.notCased, h.lowerChar_eq⟩⟩

theorem caseless_of_isBlank : ∀ c : Char, isBlank c = true → Caseless c := by
  apply forall_char_of_inRanges
  decide +kernel

section

variable {c : Char}

theorem Caseless.ne_sigma (hc : Caseless c) : c ≠ 'Σ' := by
  rintro rfl
  exact absurd hc (by decide +kernel)

theorem Caseless.lowerAt_eq (hc : Caseless c) (final : Bool) : lowerAt final c = [c] := by
  rw [lowerAt, if_neg hc.ne_sigma, hc.lowerChar_eq]

theorem startsCased_append_caseless (hc : Caseless c) (xs ys : List Char) :
    startsCased (xs ++ c :: ys) = startsCased xs := by
  have hfind : (c :: ys).find? (fun c => !isCaseIgnorable c) = some c :=
    List.find?_cons_of_pos (by simp [hc.notIgnorable])
  unfold startsCased
  rw [List.find?_append, hfind]
  cases xs.find? fun c => !isCaseIgnorable c with
  | none => exact hc.notCased
  | some d => rfl

theorem lower_go_append_caseless (hc : Caseless c) (afterCased : Bool) (xs ys : List Char) :
    lower.go afterCased (xs ++ c :: ys) = lower.go afterCased xs ++ c :: lower ys := by
  induction xs generalizing afterCased with
  | nil =>
    show lower.go afterCased (c :: ys) = c :: lower ys
    rw [lower_go_cons, hc.lowerAt_eq, hc.notIgnorable, hc.notCased]
    rfl
  | cons d xs ih =>
    rw [List.cons_append, lower_go_cons, lower_go_cons, startsCased_append_caseless hc, ih, List.append_assoc]

theorem lower_append_caseless (hc : Caseless c) (xs ys : List Char) :
    lower (xs ++ c :: ys) = lower xs ++ c :: lower ys :=
  lower_go_append_caseless hc false xs ys

theorem lower_cons_caseless (hc : Caseless c) (ys : List Char) : lower (c :: ys) = c :: lower ys :=
  lower_append_caseless hc [] ys

end

theorem lower_append_blank (xs ys : List Char) :
    lower (xs ++ ' ' :: ys) = lower xs ++ ' ' :: lower ys :=
  lower_append_caseless (caseless_of_isBlank ' ' (by decide)) xs ys

theorem exists_lowerAt_eq {c : Char} (h : c ≠ 'İ') (final : Bool) : ∃ d, lowerAt final c = [d] := by
  unfold lowerAt lowerChar
  repeat' split
  all_goals first | contradiction | exact ⟨_, rfl⟩

theorem lower_go_eq_of_prefix {afterCased : Bool} (h : text <+: lower.go afterCased text) :
    lower.go afterCased text = text := by
  induction text generalizing afterCased with
  | nil => rfl
  | cons c text ih =>
    rw [lower_go_cons] at h ⊢
    -- Only one letter has two letters for its lower case form, and it is not the first of these.
    have hdot : c ≠ 'İ' := by
      rintro rfl
      have hhead : 'İ' = 'i' := (List.cons_prefix_cons.1 h).1
      exact absurd hhead (by decide)
    obtain ⟨d, hd⟩ := exists_lowerAt_eq hdot (afterCased && !startsCased text)
    rw [hd] at h ⊢
    obtain ⟨rfl, hrest⟩ := List.cons_prefix_cons.1 h
    rw [ih hrest]
    rfl

theorem lower_eq_of_prefix (h : text <+: lower text) : lower text = text :=
  lower_go_eq_of_prefix h

theorem le_of_isDigit_ofNat {n : Nat} (h : (Char.ofNat n).isDigit = true) : n ≤ 57 := by
  unfold Char.ofNat at h
  by_cases hvalid : n.isValidChar
  · rw [dif_pos hvalid] at h
    exact (Char.isDigit_iff_toNat.1 h).2
  · rw [dif_neg hvalid] at h
    exact absurd h (by decide)

theorem lowerChar_cases (c : Char) :
    (c.toNat < 0x80 ∧ lowerChar c = [c.toLower]) ∨ lowerChar c = ['i', '\u0307'] ∨
      (∃ run ∈ caseRuns, run.contains c.toNat = true ∧
        lowerChar c = [Char.ofNat (run.target + (c.toNat - run.first))]) ∨
      lowerChar c = [c] := by
  unfold lowerChar
  split
  · next hascii => exact .inl ⟨hascii, rfl⟩
  · split
    · exact .inr (.inl rfl)
    · split
      · next run hfind =>
        have hcontains : run.contains c.toNat = true :=
          List.find?_some (p := fun run : CaseRun => run.contains c.toNat) hfind
        exact .inr (.inr (.inl ⟨run, List.mem_of_find?_eq_some hfind, hcontains, rfl⟩))
      · exact .inr (.inr (.inr rfl))

theorem lowerChar_eq_of_digits {c : Char} (h : ∀ d ∈ lowerChar c, d.isDigit = true) :
    lowerChar c = [c] := by
  obtain ⟨hascii, hform⟩ | hform | ⟨run, hrun, -, hform⟩ | hform := lowerChar_cases c
  · have hall : ∀ c : Char, c.toNat < 0x80 → c.toLower.isDigit = true → c.toLower = c := by
      apply forall_char_of_lt
      decide +kernel
    rw [hform] at h ⊢
    rw [hall c hascii (h _ List.mem_cons_self)]
  · rw [hform] at h
    exact absurd (h 'i' List.mem_cons_self) (by decide)
  · -- The lower case forms of a run come after the digits in code point order.
    have htargets : ∀ run ∈ caseRuns, 57 < run.target := by
      decide +kernel
    have htarget := htargets run hrun
    rw [hform] at h
    have hle := le_of_isDigit_ofNat (h _ List.mem_cons_self)
    omega
  · exact hform

theorem lowerAt_eq_of_digits {c : Char} {final : Bool} (h : ∀ d ∈ lowerAt final c, d.isDigit = true) :
    lowerAt final c = [c] := by
  unfold lowerAt at h ⊢
  split at h
  · -- No form of a sigma is a digit.
    have hsigma := h _ List.mem_cons_self
    cases final <;> exact absurd hsigma (by decide)
  · next hc => rw [if_neg hc, lowerChar_eq_of_digits h]

theorem lower_go_eq_of_digits {afterCased : Bool}
    (h : ∀ d ∈ lower.go afterCased text, d.isDigit = true) : lower.go afterCased text = text := by
  induction text generalizing afterCased with
  | nil => rfl
  | cons c text ih =>
    rw [lower_go_cons] at h ⊢
    obtain ⟨hform, hrest⟩ := List.forall_mem_append.1 h
    rw [ih hrest, lowerAt_eq_of_digits hform]
    rfl

theorem lower_eq_of_digits (h : ∀ d ∈ lower text, d.isDigit = true) : lower text = text :=
  lower_go_eq_of_digits h

theorem trimEnd_concat {d : Char} (front : List Char) (hd : isBlank d = false) :
    trimEnd (front ++ [d]) = front ++ [d] := by
  rw [trimEnd, List.reverse_append]
  show (List.dropWhile isBlank (d :: front.reverse)).reverse = _
  rw [List.dropWhile_cons_of_neg (by simp [hd])]
  simp

theorem trimStart_cons {c : Char} (hc : isBlank c = false) : trimStart (c :: text) = c :: text :=
  List.dropWhile_cons_of_neg (by simp [hc])

end Text

open Text

def IsPlain (text : String) : Prop :=
  text.toList ≠ [] ∧ ∀ c ∈ text.toList, c.isLower = true ∨ c.isDigit = true ∨ c = '_'

instance {text : String} : Decidable (IsPlain text) :=
  decidable_of_iff ((!text.toList.isEmpty && text.toList.all fun c =>
    c.isLower || c.isDigit || c = '_') = true) (by simp [IsPlain, or_assoc])

theorem plain_char {c : Char} (h : c.isLower = true ∨ c.isDigit = true ∨ c = '_') :
    isWordChar c = true ∧ c.toNat < 128 ∧ c.toLower = c := by
  -- Plain characters are ASCII, so that it suffices to look at these one by one.
  have hall : ∀ c : Char, c.toNat < 128 → c.isLower = true ∨ c.isDigit = true ∨ c = '_' →
      isWordChar c = true ∧ c.toLower = c := by
    apply forall_char_of_lt
    decide +kernel
  have hascii : c.toNat < 128 := by
    obtain hlower | hdigit | rfl := h
    · have hle : c.val ≤ 'z'.val := of_decide_eq_true (Bool.and_eq_true_iff.1 hlower).2
      exact Nat.lt_of_le_of_lt (UInt32.le_iff_toNat_le.1 hle) (by decide)
    · exact Nat.lt_of_le_of_lt (Char.isDigit_iff_toNat.1 hdigit).2 (by decide)
    · decide
  obtain ⟨hword, hlower⟩ := hall c hascii h
  exact ⟨hword, hascii, hlower⟩

theorem IsPlain.isWord {text : String} (h : IsPlain text) : IsWord text.toList := by
  refine ⟨h.1, ?_⟩
  intro c hc
  exact (plain_char (h.2 c hc)).1

theorem IsPlain.isLower {text : String} (h : IsPlain text) : IsLower text.toList := by
  intro c hc
  exact (plain_char (h.2 c hc)).2

end MipsWord
