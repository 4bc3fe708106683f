import Mathlib.Algebra.BigOperators.Intervals
import Mathlib.Data.Int.ModEq
import MipsWord.Proofs.Bits.Number

namespace MipsWord.Bits

variable {bits other : List Char} {width n : Nat} {c d : Char}

theorem capacity_eq_pow (width : Nat) : capacity width = 2 ^ width := rfl

theorem cast_capacity (width : Nat) : (capacity width : Int) = 2 ^ width := by
  rw [capacity_eq_pow, Nat.cast_pow]
  rfl

theorem sum_ones_cons (c : Char) (bits : List Char) :
    (∑ i ∈ Finset.range (c :: bits).length with (c :: bits)[i]? = some '1',
        2 ^ ((c :: bits).length - 1 - i)) =
      bit c * 2 ^ bits.length +
        ∑ i ∈ Finset.range bits.length with bits[i]? = some '1', 2 ^ (bits.length - 1 - i) := by
  have hhead : (if c = '1' then 2 ^ bits.length else 0) = bit c * 2 ^ bits.length := by
    unfold bit
    rw [ite_mul, Nat.one_mul, Nat.zero_mul]
  rw [Finset.sum_filter, Finset.sum_filter, List.length_cons, Finset.sum_range_succ', Nat.add_comm]
  simp only [List.getElem?_cons_succ, List.getElem?_cons_zero, Nat.add_sub_cancel, Nat.sub_zero,
    Option.some.injEq, hhead]
  congr 1
  apply Finset.sum_congr rfl
  intro i _
  rw [Nat.add_comm i 1, Nat.sub_add_eq]

theorem toNat_eq_sum_ones (bits : List Char) :
    toNat bits =
      ∑ i ∈ Finset.range bits.length with bits[i]? = some '1', 2 ^ (bits.length - 1 - i) := by
  induction bits with
  | nil => rfl
  | cons c bits ih => rw [toNat_cons, ih, sum_ones_cons, capacity_eq_pow]

def shiftIn (word : UInt32) (c : Char) : UInt32 :=
  (word <<< 1) ||| (if c = '1' then 1 else 0)

theorem toNat_shiftLeft_one (word : UInt32) :
    (word <<< 1).toNat = 2 ^ 1 * (word.toNat % 2 ^ 31) := by
  have hshift : (word <<< 1).toNat = word.toNat <<< 1 % 2 ^ 32 := UInt32.toNat_shiftLeft word 1
  rw [hshift, Nat.shiftLeft_eq]
  omega

theorem toNat_shiftIn (word : UInt32) (c : Char) :
    (shiftIn word c).toNat = (2 * word.toNat + bit c) % capacity wordBits := by
  have hle := bit_le_one c
  have hcapacity : capacity wordBits = 4294967296 := rfl
  have hbit : (if c = '1' then 1 else 0 : UInt32).toNat = bit c := by
    unfold bit
    split <;> rfl
  unfold shiftIn
  rw [UInt32.toNat_or, hbit, toNat_shiftLeft_one, ← Nat.two_pow_add_eq_or_of_lt (by omega),
    hcapacity]
  omega

theorem value_concat (bits : List Char) (c : Char) :
    value (bits ++ [c]) = (2 * value bits + bit c) % capacity wordBits := by
  unfold value
  rw [toNat_concat, ← Nat.mod_add_mod, ← Nat.mul_mod_mod, Nat.mod_add_mod]

theorem toNat_foldl_shiftIn (bits : List Char) : (bits.foldl shiftIn 0).toNat = value bits := by
  induction bits using List.reverseRecOn with
  | nil => rfl
  | append_singleton bits c ih => rw [List.foldl_concat, toNat_shiftIn, ih, value_concat]

def Clears (c d : Char) : Prop :=
  d = c ∨ c ≠ '1' ∧ d = '0'

theorem Clears.bit_eq (h : Clears c d) : bit d = bit c := by
  obtain rfl | ⟨hne, rfl⟩ := h
  · rfl
  · unfold bit
    rw [if_neg hne, if_neg (by decide)]

theorem value_eq_of_clears (h : List.Forall₂ Clears bits other) : value other = value bits := by
  suffices htoNat : toNat other = toNat bits by
    unfold value
    rw [htoNat]
  induction h with
  | nil => rfl
  | cons hclears hrest ih => rw [toNat_cons, toNat_cons, hclears.bit_eq, ih, hrest.length_eq]

theorem signedValue_of_lt (h : wordBits < bits.length) : signedValue bits = value bits := by
  unfold signedValue
  rw [if_neg]
  omega

theorem signedValue_modEq (bits : List Char) :
    signedValue bits ≡ value bits [ZMOD 2 ^ bits.length] := by
  unfold signedValue
  split
  · rw [cast_capacity, Int.sub_modulus_modEq_iff]
  · rfl

theorem signedValue_bounds (hpos : 1 ≤ bits.length) (hle : bits.length ≤ wordBits) :
    -2 ^ (bits.length - 1) ≤ signedValue bits ∧ signedValue bits ≤ 2 ^ (bits.length - 1) - 1 := by
  obtain ⟨n, hlength⟩ := Nat.exists_eq_add_of_le' hpos
  have hlt := toNat_lt bits
  rw [hlength] at hle
  rw [hlength, capacity_succ] at hlt
  -- The sign bit decides in which half of the range the number lies.
  rw [signedValue_eq hlength hle, hlength, Nat.add_sub_cancel, ← cast_capacity, capacity_succ]
  split <;> omega

theorem bits_denote :
    (∀ bits : List Char,
      value bits =
          (∑ i ∈ Finset.range bits.length with bits[i]? = some '1', 2 ^ (bits.length - 1 - i))
            % 2 ^ 32 ∧
        (bits.foldl shiftIn 0).toNat = value bits ∧
        (∀ other, List.Forall₂ Clears bits other → value other = value bits) ∧
        (1 ≤ bits.length → bits.length ≤ 32 →
          -2 ^ (bits.length - 1) ≤ signedValue bits ∧
            signedValue bits ≤ 2 ^ (bits.length - 1) - 1 ∧
            signedValue bits ≡ value bits [ZMOD 2 ^ bits.length]) ∧
        (32 < bits.length → signedValue bits = value bits)) ∧
      ∀ width n, 1 ≤ width → width ≤ 32 → n < 2 ^ width →
        (ofNat width n).length = width ∧ IsBits (ofNat width n) ∧ value (ofNat width n) = n := by
  constructor
  · intro bits
    refine ⟨?_, toNat_foldl_shiftIn bits, ?_, ?_, ?_⟩
    · rw [← toNat_eq_sum_ones]
      rfl
    · intro other
      exact value_eq_of_clears
    · intro hpos hle
      obtain ⟨hlow, hhigh⟩ := signedValue_bounds hpos hle
      exact ⟨hlow, hhigh, signedValue_modEq bits⟩
    · exact signedValue_of_lt
  · intro width n hpos hle hlt
    have hlength : (ofNat width n).length = width := length_ofNat hpos hlt
    refine ⟨hlength, isBits_ofNat width n, ?_⟩
    rw [value_eq_toNat (by rwa [hlength]), toNat_ofNat]

theorem bits_denote_letter :
    List.Forall₂ Clears "1x01".toList "1001".toList ∧
      value "1001".toList = value "1x01".toList ∧
      signedValue "1x01".toList ≡ 9 [ZMOD 2 ^ 4] ∧ signedValue "1x01".toList ≤ 7 ∧
      signedValue ('1' :: List.replicate 31 '0' ++ ['1']) = 1 ∧
      ofNat 5 9 = "01001".toList ∧ value (ofNat 5 9) = 9 := by
  have hclears : List.Forall₂ Clears "1x01".toList "1001".toList := by
    have hkept : ∀ c, Clears c c := fun c => .inl rfl
    have hletter : Clears 'x' '0' := .inr ⟨by decide, rfl⟩
    exact .cons (hkept _) (.cons hletter (.cons (hkept _) (.cons (hkept _) .nil)))
  obtain ⟨hbits, hofNat⟩ := bits_denote
  obtain ⟨-, -, hcleared, hsigned, -⟩ := hbits "1x01".toList
  obtain ⟨-, -, -, -, hlong⟩ := hbits ('1' :: List.replicate 31 '0' ++ ['1'])
  obtain ⟨-, hhigh, hmod⟩ := hsigned (by decide) (by decide)
  refine ⟨hclears, hcleared _ hclears, hmod, hhigh, ?_, by decide, ?_⟩
  · rw [hlong (by decide)]
    decide
  · exact (hofNat 5 9 (by decide) (by decide) (by decide)).2.2

end MipsWord.Bits
