import MipsWord.Proofs.Numeral.Digits
import MipsWord.Proofs.Numeral.Literal
import MipsWord.Proofs.Text.Lower

namespace MipsWord.Base

open Text

variable {base : Base} {n : Nat}

theorem toDigits_ne_nil (base : Base) (n : Nat) : Nat.toDigits base.radix n ≠ [] := by
  have hpos : 0 < (Nat.toDigits base.radix n).length := Nat.length_toDigits_pos
  intro h
  rw [h] at hpos
  contradiction

theorem isDigit_of_mem_toDigits {c : Char} (h : c ∈ Nat.toDigits base.radix n) :
    base.isDigit c = true := by
  obtain ⟨d, hd, rfl⟩ := exists_digitChar_of_mem_toDigits h
  exact isDigit_digitChar hd

def literal (base : Base) : Int → Literal
  | .ofNat n => { negative := false, base, digits := Nat.toDigits base.radix n, rest := [] }
  | .negSucc n => { negative := true, base, digits := Nat.toDigits base.radix (n + 1), rest := [] }

theorem toInt_literal (base : Base) (value : Int) : (base.literal value).toInt = value := by
  cases value with
  | ofNat n =>
    show ((base.toNat (Nat.toDigits base.radix n) : Nat) : Int) = n
    rw [toNat_toDigits]
  | negSucc n =>
    show -((base.toNat (Nat.toDigits base.radix (n + 1)) : Nat) : Int) = _
    rw [toNat_toDigits]
    rfl

theorem base_literal (base : Base) (value : Int) : (base.literal value).base = base := by
  cases value <;> rfl

theorem rest_literal (base : Base) (value : Int) : (base.literal value).rest = [] := by
  cases value <;> rfl

theorem exists_digits_literal (base : Base) (value : Int) :
    ∃ n, (base.literal value).digits = Nat.toDigits base.radix n := by
  cases value with
  | ofNat n => exact ⟨n, rfl⟩
  | negSucc n => exact ⟨n + 1, rfl⟩

theorem consumed_literal (base : Base) (value : Int) :
    (base.literal value).consumed = (base.formatInt value).toList := by
  cases value with
  | ofNat n => rw [formatInt, format, String.toList_ofList]; rfl
  | negSucc n => rw [formatInt, String.toList_ofList, format, String.toList_ofList]; rfl

theorem unmarked_toDigits (n : Nat) (base : Base) (hmarker : base.marker ≠ []) :
    ¬ base.marker <+: Nat.toDigits decimal.radix n := by
  intro hmarked
  -- The letter of a marker would have to be a decimal digit.
  have hmem : ∀ c ∈ base.marker, decimal.isDigit c = true := by
    intro c hc
    exact isDigit_of_mem_toDigits (hmarked.subset hc)
  cases base with
  | binary => exact absurd (hmem 'b' (by simp [marker])) (by decide)
  | decimal => exact hmarker rfl
  | hexadecimal => exact absurd (hmem 'x' (by simp [marker])) (by decide)

theorem reads_formatInt (base : Base) (value : Int) :
    (base.literal value).Reads (base.formatInt value).toList := by
  obtain ⟨n, hdigits⟩ := base.exists_digits_literal value
  constructor
  · rw [rest_literal, List.append_nil, consumed_literal]
  · rw [hdigits]
    exact base.toDigits_ne_nil n
  · rw [hdigits, base_literal]
    intro c hc
    exact isDigit_of_mem_toDigits hc
  · rw [rest_literal]
    exact stops_nil
  · rw [base_literal, rest_literal, hdigits, List.append_nil]
    rintro rfl marked hmarker
    exact unmarked_toDigits n marked hmarker

theorem digitChar_plain {d : Nat} (h : d < 16) :
    isWordChar d.digitChar = true ∧ d.digitChar.toNat < 128 ∧ d.digitChar.toLower = d.digitChar := by
  revert d
  decide

theorem radix_le (base : Base) : base.radix ≤ 16 := by
  cases base <;> decide

theorem isWordChar_toDigits : ∀ c ∈ Nat.toDigits base.radix n, isWordChar c = true := by
  intro c hc
  obtain ⟨d, hd, rfl⟩ := exists_digitChar_of_mem_toDigits hc
  exact (digitChar_plain (Nat.lt_of_lt_of_le hd base.radix_le)).1

theorem isLower_toDigits (base : Base) (n : Nat) : IsLower (Nat.toDigits base.radix n) := by
  intro c hc
  obtain ⟨d, hd, rfl⟩ := exists_digitChar_of_mem_toDigits hc
  exact (digitChar_plain (Nat.lt_of_lt_of_le hd base.radix_le)).2

theorem isLower_format (base : Base) (n : Nat) : IsLower (base.format n).toList := by
  rw [format, String.toList_ofList, isLower_append]
  refine ⟨?_, base.isLower_toDigits n⟩
  apply isLower_of_all
  cases base <;> decide

theorem isLower_formatInt (base : Base) (value : Int) : IsLower (base.formatInt value).toList := by
  cases value with
  | ofNat n => exact base.isLower_format n
  | negSucc n =>
    rw [formatInt, String.toList_ofList, isLower_cons]
    exact ⟨by decide, base.isLower_format (n + 1)⟩

theorem exists_format_eq_cons (base : Base) (n : Nat) :
    ∃ digit more, (base.format n).toList = digit :: more ∧ isDecimalDigit digit = true ∧
      ∀ c ∈ more, isWordChar c = true := by
  rw [format, String.toList_ofList]
  cases base with
  | binary =>
    refine ⟨'0', 'b' :: Nat.toDigits binary.radix n, rfl, by decide, ?_⟩
    exact List.forall_mem_cons.2 ⟨by decide, isWordChar_toDigits⟩
  | hexadecimal =>
    refine ⟨'0', 'x' :: Nat.toDigits hexadecimal.radix n, rfl, by decide, ?_⟩
    exact List.forall_mem_cons.2 ⟨by decide, isWordChar_toDigits⟩
  | decimal =>
    cases hdigits : Nat.toDigits decimal.radix n with
    | nil => exact absurd hdigits (decimal.toDigits_ne_nil n)
    | cons digit more =>
      have hword : ∀ c ∈ digit :: more, isWordChar c = true := by
        rw [← hdigits]
        exact isWordChar_toDigits
      have hdigit : decimal.isDigit digit = true := by
        apply isDigit_of_mem_toDigits (n := n)
        rw [hdigits]
        exact List.mem_cons_self
      rw [isDigit_decimal] at hdigit
      refine ⟨digit, more, rfl, ?_, ?_⟩
      · unfold isDecimalDigit
        have hascii : digit.toNat < 128 :=
          Nat.lt_of_le_of_lt (Char.isDigit_iff_toNat.1 hdigit).2 (by decide)
        rw [if_pos hascii]
        exact hdigit
      · intro c hc
        exact hword c (List.mem_cons_of_mem digit hc)

theorem isLiteral_formatInt (base : Base) (value : Int) :
    IsLiteral (base.formatInt value).toList := by
  cases value with
  | ofNat n =>
    obtain ⟨digit, more, hformat, hdigit, hmore⟩ := base.exists_format_eq_cons n
    rw [formatInt, hformat]
    exact .unsigned hdigit hmore
  | negSucc n =>
    obtain ⟨digit, more, hformat, hdigit, hmore⟩ := base.exists_format_eq_cons (n + 1)
    rw [formatInt, String.toList_ofList, hformat]
    exact .negative hdigit hmore

theorem toNat_digits_literal (base : Base) (value : Int) :
    base.toNat (base.literal value).digits = value.natAbs := by
  cases value with
  | ofNat n => exact base.toNat_toDigits n
  | negSucc n => exact base.toNat_toDigits (n + 1)

theorem value?_literal (base : Base) (value : Int) :
    (base.literal value).value? = if value.natAbs < Bits.capacity 63 then some value else none := by
  unfold Literal.value?
  rw [base_literal, toNat_digits_literal, toInt_literal]

theorem read?_formatInt (base : Base) (value : Int) :
    Literal.read? (base.formatInt value).toList = some (base.literal value) :=
  Literal.read?_eq_some_iff.2 (base.reads_formatInt value)

theorem natAbs_toInt_lt_iff {value : Int64} :
    value.toInt.natAbs < Bits.capacity 63 ↔ value ≠ Int64.minValue := by
  have hcapacity : Bits.capacity 63 = 2 ^ 63 := rfl
  have hlow := value.le_toInt
  have hhigh := value.toInt_lt
  rw [hcapacity, Ne, ← Int64.toInt_inj, Int64.toInt_minValue]
  omega

theorem format_read_back (base : Base) :
    (∀ value : Int64, ∃ literal,
      Literal.read? (base.formatInt value.toInt).toList = some literal ∧
        literal.consumed = (base.formatInt value.toInt).toList ∧
        literal.value? = if value = Int64.minValue then none else some value.toInt) ∧
      ∀ value : UInt64, ∃ literal,
        Literal.read? (base.format value.toNat).toList = some literal ∧
          literal.consumed = (base.format value.toNat).toList ∧
          literal.value? =
            if (value.toNat : Int) ≤ Int64.maxValue.toInt then some (value.toNat : Int) else none := by
  constructor
  · intro value
    refine ⟨_, base.read?_formatInt _, base.consumed_literal _, ?_⟩
    rw [value?_literal]
    by_cases hleast : value = Int64.minValue
    · rw [if_pos hleast, if_neg (mt natAbs_toInt_lt_iff.1 (not_not_intro hleast))]
    · rw [if_neg hleast, if_pos (natAbs_toInt_lt_iff.2 hleast)]
  · intro value
    refine ⟨_, base.read?_formatInt value.toNat, base.consumed_literal value.toNat, ?_⟩
    have hcapacity : Bits.capacity 63 = 2 ^ 63 := rfl
    have hgreatest : Int64.maxValue.toInt = 2 ^ 63 - 1 := Int64.toInt_maxValue
    have hfits : value.toNat < 2 ^ 63 ↔ (value.toNat : Int) ≤ 2 ^ 63 - 1 := by omega
    rw [value?_literal, hcapacity, hgreatest, Int.natAbs_natCast]
    simp only [hfits]

end MipsWord.Base
