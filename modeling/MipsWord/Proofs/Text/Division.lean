import Mathlib.Data.List.Induction
import MipsWord.Proofs.Text.Spacing

/-!
This module contains the parts of texts in lower case. Lower-casing makes no blanks and no punctuation out of
other characters. Hence a text can be divided wherever its lower case form can, and it does not matter whether
the blanks at its ends are removed before or after.
-/

namespace MipsWord.Text

variable {text xs ys : List Char} {c d : Char} {afterCased final : Bool}

def IsDivider (c : Char) : Prop :=
  isBlank c = true ∨ c = ',' ∨ c = '('

theorem IsDivider.caseless (h : IsDivider c) : Caseless c := by
  obtain hblank | rfl | rfl := h
  · exact caseless_of_isBlank c hblank
  · decide +kernel
  · decide +kernel

def IsSmall (d : Char) : Prop :=
  97 ≤ d.toNat ∧ isBlank d = false

instance : Decidable (IsSmall d) :=
  inferInstanceAs (Decidable (97 ≤ d.toNat ∧ isBlank d = false))

theorem IsSmall.not_isDivider (h : IsSmall c) : ¬ IsDivider c := by
  obtain ⟨hle, hink⟩ := h
  rintro (hblank | rfl | rfl)
  · rw [hink] at hblank
    contradiction
  · exact absurd hle (by decide)
  · exact absurd hle (by decide)

theorem IsSmall.toLower_eq (h : IsSmall c) : c.toLower = c := by
  apply toLower_eq_self
  have hle := h.1
  omega

theorem toNat_ofNat {n : Nat} (h : n.isValidChar) : (Char.ofNat n).toNat = n := by
  unfold Char.ofNat
  rw [dif_pos h]
  rfl

theorem isSmall_of_caseRun {run : CaseRun} (hrun : run ∈ caseRuns) {n : Nat}
    (hn : run.contains n = true) : IsSmall (Char.ofNat (run.target + (n - run.first))) := by
  -- The forms of a run lie between two code points, so that it suffices to look at these.
  have hruns : ∀ run ∈ caseRuns, 97 ≤ run.target ∧
      (run.target + (run.last - run.first) < 0xd800 ∨
        0xdfff < run.target ∧ run.target + (run.last - run.first) < 0x110000) ∧
      ∀ r ∈ blankRanges, run.target + (run.last - run.first) < r.1 ∨ r.2 < run.target := by
    decide +kernel
  obtain ⟨hle, hvalid, hblanks⟩ := hruns run hrun
  simp only [CaseRun.contains, Bool.and_eq_true, decide_eq_true_eq] at hn
  have hcode : (Char.ofNat (run.target + (n - run.first))).toNat = run.target + (n - run.first) := by
    apply toNat_ofNat
    unfold Nat.isValidChar
    omega
  constructor
  · rw [hcode]
    omega
  · rw [isBlank, Bool.eq_false_iff, Ne, inRanges_iff, hcode]
    rintro ⟨r, hr, hfirst, hlast⟩
    have hapart := hblanks r hr
    omega

theorem mem_lowerChar (h : d ∈ lowerChar c) : (d = c ∧ c.toLower = c) ∨ IsSmall d := by
  by_cases hascii : c.toNat < 0x80
  · have hall : ∀ c : Char, c.toNat < 0x80 → c.toLower = c ∨ IsSmall c.toLower := by
      apply forall_char_of_lt
      decide +kernel
    rw [lowerChar, if_pos hascii, List.mem_singleton] at h
    rw [h]
    obtain hself | hsmall := hall c hascii
    · exact .inl ⟨hself, hself⟩
    · exact .inr hsmall
  · obtain ⟨hlt, -⟩ | hform | ⟨run, hrun, hcontains, hform⟩ | hform := lowerChar_cases c
    · contradiction
    · rw [hform, List.mem_cons, List.mem_singleton] at h
      right
      cases h with
      | inl h =>
        rw [h]
        decide
      | inr h =>
        rw [h]
        decide
    · rw [hform, List.mem_singleton] at h
      rw [h]
      exact .inr (isSmall_of_caseRun hrun hcontains)
    · rw [hform, List.mem_singleton] at h
      have hcapital : ¬ (65 ≤ c.toNat ∧ c.toNat ≤ 90) := by omega
      exact .inl ⟨h, toLower_eq_self hcapital⟩

theorem lowerAt_ne_nil (final : Bool) (c : Char) : lowerAt final c ≠ [] := by
  unfold lowerAt
  split
  · exact List.cons_ne_nil _ _
  · obtain ⟨-, hform⟩ | hform | ⟨run, -, -, hform⟩ | hform := lowerChar_cases c
    all_goals
      rw [hform]
      exact List.cons_ne_nil _ _

theorem mem_lowerAt (h : d ∈ lowerAt final c) : (d = c ∧ c.toLower = c) ∨ IsSmall d := by
  unfold lowerAt at h
  split at h
  · right
    rw [List.mem_singleton.1 h]
    cases final <;> decide
  · exact mem_lowerChar h

theorem isBlank_of_mem_lowerAt (hc : isBlank c = false) (h : d ∈ lowerAt final c) :
    isBlank d = false := by
  obtain ⟨rfl, -⟩ | hsmall := mem_lowerAt h
  · exact hc
  · exact hsmall.2

theorem toLower_eq_of_mem_lower (h : d ∈ lower text) : d.toLower = d := by
  suffices hgo : ∀ afterCased, d ∈ lower.go afterCased text → d.toLower = d from hgo false h
  clear h
  induction text with
  | nil => exact nofun
  | cons c text ih =>
    intro afterCased h
    rw [lower_go_cons, List.mem_append] at h
    cases h with
    | inl h =>
      obtain ⟨rfl, hself⟩ | hsmall := mem_lowerAt h
      · exact hself
      · exact hsmall.toLower_eq
    | inr h => exact ih _ h

theorem eq_of_mem_lowerAt (hd : IsDivider d) (h : d ∈ lowerAt final c) : d = c := by
  obtain ⟨heq, -⟩ | hsmall := mem_lowerAt h
  · exact heq
  · exact absurd hd hsmall.not_isDivider

theorem exists_append_of_lower_go (hc : IsDivider c) (h : lower.go afterCased text = xs ++ c :: ys) :
    ∃ front back, text = front ++ c :: back ∧ lower.go afterCased front = xs ∧ lower back = ys := by
  induction text generalizing afterCased xs with
  | nil => exact absurd h.symm (by simp [lower.go])
  | cons d text ih =>
    rw [lower_go_cons, List.append_eq_append_iff] at h
    obtain ⟨more, hxs, hrest⟩ | ⟨more, hform, hrest⟩ := h
    · -- The divider stands behind what the first character becomes.
      obtain ⟨front, back, rfl, hfront, hback⟩ := ih hrest
      refine ⟨d :: front, back, rfl, ?_, hback⟩
      rw [lower_go_cons, hfront, hxs, startsCased_append_caseless hc.caseless]
    · cases more with
      | nil =>
        have hnext : lower.go _ text = [] ++ c :: ys := hrest.symm
        obtain ⟨front, back, rfl, hfront, hback⟩ := ih hnext
        refine ⟨d :: front, back, rfl, ?_, hback⟩
        rw [lower_go_cons, hfront, ← startsCased_append_caseless hc.caseless, hform, List.append_nil,
          List.append_nil]
      | cons e more =>
        -- Only the divider itself becomes a divider, and it ends every word.
        obtain ⟨rfl, hys⟩ := List.cons.inj hrest
        have hd : c = d := by
          apply eq_of_mem_lowerAt hc
          rw [hform]
          simp
        subst hd
        rw [hc.caseless.lowerAt_eq, List.singleton_eq_append_iff] at hform
        obtain ⟨rfl, hmore⟩ | ⟨-, hmore⟩ := hform
        · obtain ⟨-, rfl⟩ := List.cons.inj hmore
          refine ⟨[], text, rfl, rfl, ?_⟩
          rw [hys, hc.caseless.notIgnorable, hc.caseless.notCased]
          rfl
        · contradiction

theorem exists_append_of_lower (hc : IsDivider c) (h : lower text = xs ++ c :: ys) :
    ∃ front back, text = front ++ c :: back ∧ lower front = xs ∧ lower back = ys :=
  exists_append_of_lower_go hc h

theorem trimStart_lower (text : List Char) : trimStart (lower text) = lower (trimStart text) := by
  induction text with
  | nil => rfl
  | cons c text ih =>
    cases hc : isBlank c with
    | true =>
      rw [lower_cons_caseless (caseless_of_isBlank c hc), trimStart_cons_of_blank hc,
        trimStart_cons_of_blank hc, ih]
    | false =>
      rw [trimStart_cons hc]
      apply trimStart_of_stops
      unfold lower
      rw [lower_go_cons]
      apply Stops.append _ (lowerAt_ne_nil _ c)
      intro d hd
      exact isBlank_of_mem_lowerAt hc (List.mem_of_mem_head? hd)

theorem exists_lower_go_concat (hc : isBlank c = false) (text : List Char) (afterCased : Bool) :
    ∃ front d, lower.go afterCased (text ++ [c]) = front ++ [d] ∧ isBlank d = false := by
  induction text generalizing afterCased with
  | nil =>
    have hne := lowerAt_ne_nil (afterCased && !startsCased []) c
    refine ⟨(lowerAt (afterCased && !startsCased []) c).dropLast, _, ?_,
      isBlank_of_mem_lowerAt hc (List.getLast_mem hne)⟩
    rw [List.nil_append, lower_go_cons, List.dropLast_concat_getLast hne]
    exact List.append_nil _
  | cons d text ih =>
    obtain ⟨front, e, hgo, he⟩ := ih (if isCaseIgnorable d then afterCased else isCased d)
    refine ⟨lowerAt (afterCased && !startsCased (text ++ [c])) d ++ front, e, ?_, he⟩
    rw [List.cons_append, lower_go_cons, hgo, List.append_assoc]

theorem trimEnd_lower (text : List Char) : trimEnd (lower text) = lower (trimEnd text) := by
  induction text using List.reverseRecOn with
  | nil => rfl
  | append_singleton text c ih =>
    cases hc : isBlank c with
    | true =>
      have hblanks : IsBlanks [c] := by
        intro d hd
        rw [List.mem_singleton.1 hd, hc]
      rw [lower_append_caseless (caseless_of_isBlank c hc), trimEnd_append_blanks text hblanks, ← ih]
      exact trimEnd_append_blanks (lower text) hblanks
    | false =>
      obtain ⟨front, d, hlower, hd⟩ := exists_lower_go_concat hc text false
      have hlower : lower (text ++ [c]) = front ++ [d] := hlower
      rw [trimEnd_concat text hc, hlower, trimEnd_concat front hd]

theorem trim_lower (text : List Char) : trim (lower text) = lower (trim text) := by
  unfold trim
  rw [trimStart_lower, trimEnd_lower]

end MipsWord.Text
