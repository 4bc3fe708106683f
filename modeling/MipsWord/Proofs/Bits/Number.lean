import Mathlib.Data.List.Induction
import MipsWord.Proofs.Numeral.Digits

namespace MipsWord.Bits

variable {bits xs ys : List Char} {width n : Nat} {c : Char}

def IsBits (text : List Char) : Prop :=
  ∀ c ∈ text, c = '0' ∨ c = '1'

theorem IsBits.append (hxs : IsBits xs) (hys : IsBits ys) : IsBits (xs ++ ys) := by
  intro c hc
  cases List.mem_append.1 hc with
  | inl hc => exact hxs c hc
  | inr hc => exact hys c hc

theorem capacity_succ (width : Nat) : capacity (width + 1) = 2 * capacity width := by
  unfold capacity
  rw [Nat.mul_comm]
  rfl

theorem capacity_pos (width : Nat) : 0 < capacity width := by
  induction width with
  | zero => decide
  | succ width ih =>
    rw [capacity_succ]
    omega

theorem toNat_append (xs ys : List Char) :
    toNat (xs ++ ys) = toNat xs * capacity ys.length + toNat ys := by
  induction ys using List.reverseRecOn with
  | nil => simp [toNat, capacity]
  | append_singleton ys c ih =>
    rw [← List.append_assoc, toNat_concat, ih, toNat_concat, List.length_append,
      List.length_singleton, capacity_succ, Nat.mul_add, Nat.mul_left_comm, Nat.add_assoc]

theorem toNat_lt (bits : List Char) : toNat bits < capacity bits.length := by
  induction bits using List.reverseRecOn with
  | nil => decide
  | append_singleton bits c ih =>
    -- Every bit that is added at the end doubles the capacity.
    have hbit := bit_le_one c
    rw [toNat_concat, List.length_append, List.length_singleton, capacity_succ]
    omega

theorem toNat_map_clean (bits : List Char) : toNat (bits.map clean) = toNat bits := by
  unfold toNat
  rw [List.foldl_map]
  simp only [bit_clean]

theorem isBits_map_clean (bits : List Char) : IsBits (bits.map clean) := by
  intro c hc
  obtain ⟨d, -, rfl⟩ := List.mem_map.1 hc
  unfold clean
  split
  · right
    rfl
  · left
    rfl

theorem map_clean_of_isBits (h : IsBits bits) : bits.map clean = bits := by
  have hclean : ∀ c ∈ bits, clean c = id c := by
    intro c hc
    obtain rfl | rfl := h c hc <;> rfl
  rw [List.map_congr_left hclean, List.map_id]

theorem map_clean_padTo (width : Nat) (bits : List Char) :
    (padTo width bits).map clean = padTo width (bits.map clean) := by
  rw [padTo, padTo, List.rightpad, List.rightpad, List.map_append, List.map_replicate, List.length_map]
  rfl

theorem clean_eq_of_bit_eq {d : Char} (h : bit c = bit d) : clean c = clean d := by
  unfold bit at h
  unfold clean
  split at h <;> split at h <;> simp_all

theorem map_clean_eq_of_toNat_eq (hlength : xs.length = ys.length) (h : toNat xs = toNat ys) :
    xs.map clean = ys.map clean := by
  induction xs using List.reverseRecOn generalizing ys with
  | nil => rw [List.length_eq_zero_iff.1 hlength.symm]
  | append_singleton xs c ih =>
    cases ys using List.reverseRecOn with
    | nil => simp at hlength
    | append_singleton ys d =>
      have hc := bit_le_one c
      have hd := bit_le_one d
      rw [toNat_concat, toNat_concat] at h
      simp only [List.length_append, List.length_singleton, Nat.add_right_cancel_iff] at hlength
      -- The last bit is the parity of the number, and the bits before it denote the half.
      have hinit : toNat xs = toNat ys := by omega
      have hlast : bit c = bit d := by omega
      rw [List.map_append, List.map_append, ih hlength hinit]
      simp [clean_eq_of_bit_eq hlast]

theorem bit_eq_digit? (c : Char) : bit c = (Base.binary.digit? c).getD 0 := by
  have hradix : Base.binary.radix = 2 := rfl
  have hone : '1'.toNat = 49 := rfl
  have hzero : '0'.toNat = 48 := rfl
  rw [Base.digit?_of_radix_le (by decide)]
  unfold bit
  split
  · next h =>
    subst h
    rfl
  · next h =>
    have hne : c.toNat ≠ 49 := by
      rw [← hone]
      exact fun heq => h (Char.toNat_inj.1 heq)
    split
    · next hdigit =>
      have hle := (Char.isDigit_iff_toNat.1 hdigit.1).1
      rw [Option.getD_some]
      omega
    · rfl

theorem toNat_eq_binary (bits : List Char) : toNat bits = Base.binary.toNat bits := by
  unfold toNat Base.toNat
  simp only [bit_eq_digit?]
  rfl

theorem toNat_replicate_zero (n : Nat) : toNat (List.replicate n '0') = 0 := by
  induction n with
  | zero => rfl
  | succ n ih =>
    rw [List.replicate_succ', toNat_concat, ih]
    rfl

theorem toNat_ofNat (width n : Nat) : toNat (ofNat width n) = n := by
  unfold ofNat List.leftpad
  rw [toNat_append, toNat_replicate_zero, toNat_eq_binary, Nat.zero_mul, Nat.zero_add]
  exact Base.toNat_toDigits .binary n

theorem isBits_ofNat (width n : Nat) : IsBits (ofNat width n) := by
  unfold ofNat List.leftpad
  apply IsBits.append
  · intro c hc
    left
    exact List.eq_of_mem_replicate hc
  · intro c hc
    have hdigits : c ∈ Nat.toDigits Base.binary.radix n := hc
    obtain ⟨d, hd, rfl⟩ := Base.exists_digitChar_of_mem_toDigits hdigits
    have hbits : ∀ d < Base.binary.radix, d.digitChar = '0' ∨ d.digitChar = '1' := by decide
    exact hbits d hd

theorem length_ofNat (hwidth : 0 < width) (h : n < capacity width) :
    (ofNat width n).length = width := by
  have hdigits : (Nat.toDigits 2 n).length ≤ width := by
    rw [Nat.length_toDigits_le_iff (by decide) hwidth]
    exact h
  unfold ofNat
  rw [List.leftpad, List.length_append, List.length_replicate]
  omega

theorem ofNat_toNat (hne : bits ≠ []) : ofNat bits.length (toNat bits) = bits.map clean := by
  have hlength : (ofNat bits.length (toNat bits)).length = bits.length :=
    length_ofNat (List.length_pos_iff.2 hne) (toNat_lt bits)
  rw [← map_clean_of_isBits (isBits_ofNat bits.length (toNat bits))]
  apply map_clean_eq_of_toNat_eq hlength
  apply toNat_ofNat

theorem ofNat_zero (hwidth : 0 < width) : ofNat width 0 = List.replicate width '0' := by
  have hbits : IsBits (List.replicate width '0') := by
    intro c hc
    left
    exact List.eq_of_mem_replicate hc
  have hne : List.replicate width '0' ≠ [] := by
    rw [Ne, List.replicate_eq_nil_iff]
    omega
  have hofNat := ofNat_toNat hne
  rwa [List.length_replicate, toNat_replicate_zero, map_clean_of_isBits hbits] at hofNat

theorem value_eq_toNat (h : bits.length ≤ wordBits) : value bits = toNat bits := by
  unfold value
  apply Nat.mod_eq_of_lt
  apply Nat.lt_of_lt_of_le (toNat_lt bits)
  exact Nat.pow_le_pow_right (by decide) h

theorem toNat_cons (c : Char) (bits : List Char) :
    toNat (c :: bits) = bit c * capacity bits.length + toNat bits := by
  have happend := toNat_append [c] bits
  rwa [List.singleton_append, show toNat [c] = bit c by simp [toNat]] at happend

theorem head?_eq_one_iff (h : bits.length = n + 1) :
    bits.head? = some '1' ↔ capacity n ≤ toNat bits := by
  cases bits with
  | nil => simp at h
  | cons c bits =>
    simp only [List.length_cons, Nat.add_right_cancel_iff] at h
    have hlt := toNat_lt bits
    rw [toNat_cons, h, List.head?_cons, Option.some.injEq]
    rw [h] at hlt
    unfold bit
    split
    · next hc => simp [hc]
    · next hc =>
      simp only [hc, false_iff]
      omega

theorem signedValue_eq (h : bits.length = n + 1) (hle : n + 1 ≤ wordBits) :
    signedValue bits =
      if capacity n ≤ toNat bits then (toNat bits : Int) - capacity (n + 1) else toNat bits := by
  unfold signedValue
  rw [value_eq_toNat (by omega)]
  simp only [head?_eq_one_iff h, h, hle, and_true]

end MipsWord.Bits
