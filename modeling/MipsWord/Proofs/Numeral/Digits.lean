import Mathlib.Data.List.Induction
import Mathlib.Data.Nat.Digits.Defs
import MipsWord.Numeral

namespace MipsWord.Base

variable {base : Base} {digits : List Char} {d n : Nat} {c : Char}

theorem one_lt_radix (base : Base) : 1 < base.radix := by
  cases base <;> decide

theorem mod_radix_lt (base : Base) (n : Nat) : n % base.radix < base.radix :=
  Nat.mod_lt n (Nat.zero_lt_of_lt base.one_lt_radix)

theorem div_radix_lt (h : base.radix ≤ n) : n / base.radix < n := by
  apply Nat.div_lt_self _ base.one_lt_radix
  exact Nat.lt_of_lt_of_le (Nat.zero_lt_of_lt base.one_lt_radix) h

theorem getD_digit?_lt (c : Char) : (base.digit? c).getD 0 < base.radix := by
  unfold digit?
  cases hfilter : (digitValue? c).filter (· < base.radix) with
  | none => exact Nat.zero_lt_of_lt base.one_lt_radix
  | some d =>
    have hlt := (Option.filter_eq_some_iff.1 hfilter).2
    exact of_decide_eq_true hlt

theorem toNat_lt_of_isDigit (h : base.isDigit c = true) : c.toNat < 128 := by
  have hle : ∀ {d : Char}, c ≤ d → d.toNat < 128 → c.toNat < 128 := fun hc hd => Nat.lt_of_le_of_lt hc hd
  obtain ⟨value, hdigit⟩ := Option.isSome_iff_exists.1 h
  have hvalue : digitValue? c = some value := (Option.filter_eq_some_iff.1 hdigit).1
  unfold digitValue? at hvalue
  split at hvalue
  · next hc => exact hle hc.2 (by decide)
  · split at hvalue
    · next hc => exact hle hc.2 (by decide)
    · split at hvalue
      · next hc => exact hle hc.2 (by decide)
      · contradiction

theorem digit?_digitChar (h : d < base.radix) : base.digit? d.digitChar = some d := by
  cases base
  all_goals
    revert d
    decide

theorem isDigit_digitChar (h : d < base.radix) : base.isDigit d.digitChar = true := by
  unfold isDigit
  rw [digit?_digitChar h]
  rfl

theorem toNat_concat (digits : List Char) (c : Char) :
    base.toNat (digits ++ [c]) = base.radix * base.toNat digits + (base.digit? c).getD 0 := by
  simp [toNat]

theorem toNat_eq_ofDigits (base : Base) (digits : List Char) :
    base.toNat digits =
      Nat.ofDigits base.radix (digits.reverse.map fun c => (base.digit? c).getD 0) := by
  induction digits using List.reverseRecOn with
  | nil => rfl
  | append_singleton digits c ih =>
    rw [toNat_concat, ih, List.reverse_append, List.reverse_singleton, List.singleton_append,
      List.map_cons, Nat.ofDigits_cons, Nat.add_comm]

theorem toNat_toDigits (base : Base) (n : Nat) : base.toNat (Nat.toDigits base.radix n) = n := by
  induction n using Nat.strongRecOn with
  | ind n ih =>
    by_cases hlt : n < base.radix
    · rw [Nat.toDigits_of_lt_base hlt]
      simp [toNat, digit?_digitChar hlt]
    · have hle : base.radix ≤ n := by omega
      rw [Nat.toDigits_of_base_le base.one_lt_radix hle, toNat_concat, ih _ (div_radix_lt hle),
        digit?_digitChar (base.mod_radix_lt n), Option.getD_some]
      exact Nat.div_add_mod n base.radix

theorem exists_digitChar_of_mem_toDigits (h : c ∈ Nat.toDigits base.radix n) :
    ∃ d < base.radix, c = d.digitChar := by
  induction n using Nat.strongRecOn with
  | ind n ih =>
    by_cases hlt : n < base.radix
    · rw [Nat.toDigits_of_lt_base hlt, List.mem_singleton] at h
      exact ⟨n, hlt, h⟩
    · have hle : base.radix ≤ n := by omega
      rw [Nat.toDigits_of_base_le base.one_lt_radix hle, List.mem_append, List.mem_singleton] at h
      cases h with
      | inl h => exact ih _ (div_radix_lt hle) h
      | inr h => exact ⟨_, base.mod_radix_lt n, h⟩

theorem digit?_of_radix_le (hradix : base.radix ≤ 10) (c : Char) :
    base.digit? c =
      if c.isDigit = true ∧ c.toNat - '0'.toNat < base.radix then some (c.toNat - '0'.toNat)
      else none := by
  have hle : ∀ a b : Char, a ≤ b ↔ a.toNat ≤ b.toNat := fun a b => Iff.rfl
  have hdigit := Char.isDigit_iff_toNat (c := c)
  unfold digit? digitValue?
  split
  · next hc =>
    rw [hle, hle, ← hdigit] at hc
    rw [Option.filter_some]
    simp only [hc, true_and, decide_eq_true_eq]
  · next hc =>
    rw [hle, hle, ← hdigit] at hc
    -- A letter stands for ten or more, which is no digit of such a base.
    have hnone : ¬ (c.isDigit = true ∧ c.toNat - '0'.toNat < base.radix) := fun h => hc h.1
    rw [if_neg hnone]
    split
    · rw [Option.filter_some, if_neg]
      show ¬ decide (c.toNat - 'a'.toNat + 10 < base.radix) = true
      rw [decide_eq_true_eq]
      omega
    · split
      · rw [Option.filter_some, if_neg]
        show ¬ decide (c.toNat - 'A'.toNat + 10 < base.radix) = true
        rw [decide_eq_true_eq]
        omega
      · rfl

theorem digit?_decimal (c : Char) :
    decimal.digit? c = if c.isDigit = true then some (c.toNat - '0'.toNat) else none := by
  rw [digit?_of_radix_le (by decide)]
  by_cases hc : c.isDigit = true
  · have hnine : c.toNat ≤ 57 := (Char.isDigit_iff_toNat.1 hc).2
    rw [if_pos hc, if_pos]
    refine ⟨hc, ?_⟩
    show c.toNat - 48 < 10
    omega
  · rw [if_neg hc, if_neg]
    exact fun h => hc h.1

theorem isDigit_decimal (c : Char) : decimal.isDigit c = c.isDigit := by
  unfold isDigit
  rw [digit?_decimal]
  split <;> simp_all

theorem toNat_decimal (h : ∀ c ∈ digits, c.isDigit = true) :
    decimal.toNat digits = Nat.ofDigitChars 10 digits 0 := by
  -- The induction is on the digits, for every number read before them.
  suffices hfold : ∀ acc, digits.foldl (fun acc c => 10 * acc + (decimal.digit? c).getD 0) acc
      = Nat.ofDigitChars 10 digits acc from hfold 0
  induction digits with
  | nil => simp
  | cons c digits ih =>
    intro acc
    have hc : c.isDigit = true := h c (by simp)
    rw [List.foldl_cons, Nat.ofDigitChars_cons, digit?_decimal, if_pos hc, Option.getD_some]
    apply ih
    intro d hd
    exact h d (List.mem_cons_of_mem c hd)

end MipsWord.Base
