import Mathlib.Data.List.TakeWhile
import MipsWord.Inspect
import MipsWord.Proofs.Bits.Hex

namespace MipsWord.WordFormat

variable {format : WordFormat} {text digits : String}

theorem body_of_isDigit {text : List Char} (h : ∀ c ∈ text, format.base.isDigit c = true) :
    body text = text := by
  unfold body
  split
  · next rest =>
    -- The letter of the marker is no digit.
    have hmarker : format.base.isDigit 'x' = true := h 'x' (by simp)
    cases format <;> exact absurd hmarker (by decide)
  · rfl

theorem read_of_body (hbody : body text.toList = digits.toList)
    (h : ∀ c ∈ digits.toList, format.base.isDigit c = true)
    (hle : digits.toList.length ≤ format.digits) : format.read text = .accepted digits none := by
  have hdigits :
      (digits.toList.takeWhile format.base.isDigit).take format.digits = digits.toList := by
    rw [List.takeWhile_eq_self_iff.2 h, List.take_of_length_le hle]
  unfold read
  dsimp only
  rw [hbody, hdigits, if_neg (by omega), if_neg (by omega), String.ofList_toList]

theorem read_of_isDigit (h : ∀ c ∈ text.toList, format.base.isDigit c = true)
    (hle : text.toList.length ≤ format.digits) : format.read text = .accepted text none :=
  read_of_body (body_of_isDigit h) h hle

theorem value?_read (format : WordFormat) (text : String) :
    (format.read text).value? =
      some (String.ofList (((body text.toList).takeWhile format.base.isDigit).take format.digits)) := by
  unfold read
  dsimp only
  split
  · rfl
  · split <;> rfl

theorem exists_value?_read (format : WordFormat) (text : String) :
    ∃ digits, (format.read text).value? = some digits :=
  ⟨_, value?_read format text⟩

theorem isDigit_of_value? (h : (format.read text).value? = some digits) :
    (∀ c ∈ digits.toList, format.base.isDigit c = true) ∧ digits.toList.length ≤ format.digits := by
  rw [value?_read, Option.some.injEq] at h
  rw [← h, String.toList_ofList]
  refine ⟨?_, List.length_take_le ..⟩
  intro c hc
  exact List.mem_takeWhile_imp (List.mem_of_mem_take hc)

theorem value?_readBits_hex (h : (hex.read text).value? = some digits) :
    (hex.readBits text).value? = some (String.ofList (Bits.ofHex digits.toList)) := by
  unfold readBits
  rw [Outcome.value?_map, h]
  rfl

theorem isDigit_binary {bits : List Char} (h : Bits.IsBits bits) :
    ∀ c ∈ bits, binary.base.isDigit c = true := by
  intro c hc
  obtain rfl | rfl := h c hc <;> rfl

theorem isBits_of_isDigit {bits : List Char} (h : ∀ c ∈ bits, binary.base.isDigit c = true) :
    Bits.IsBits bits := by
  have hall : ∀ c : Char, c.toNat < 128 → binary.base.isDigit c = true → c = '0' ∨ c = '1' := by
    apply Text.forall_char_of_lt
    decide +kernel
  intro c hc
  exact hall c (Base.toNat_lt_of_isDigit (h c hc)) (h c hc)

theorem exists_value?_readBits (format : WordFormat) (text : String) :
    ∃ bits, (format.readBits text).value? = some bits ∧ Bits.IsBits bits.toList ∧
      bits.toList.length ≤ 32 := by
  obtain ⟨digits, hvalue⟩ := exists_value?_read format text
  obtain ⟨hdigits, hle⟩ := isDigit_of_value? hvalue
  cases format with
  | binary => exact ⟨digits, hvalue, isBits_of_isDigit hdigits, hle⟩
  | hex =>
    refine ⟨_, value?_readBits_hex hvalue, ?_, ?_⟩
    · rw [String.toList_ofList]
      exact Bits.isBits_ofHex digits.toList
    · rw [String.toList_ofList, Bits.length_ofHex]
      exact Nat.mul_le_mul_left 4 hle

theorem readBits_of_isBits {word : String} (hbits : Bits.IsBits word.toList)
    (hle : word.toList.length ≤ 32) : binary.readBits word = .accepted word none :=
  read_of_isDigit (isDigit_binary hbits) hle

theorem readBits_of_body_toHex {bits : List Char} (hbody : body text.toList = Bits.toHex bits)
    (hbits : Bits.IsBits bits) (hle : bits.length ≤ 32) :
    hex.readBits text =
      .accepted (String.ofList (Bits.padTo (4 * ((bits.length + 3) / 4)) bits)) none := by
  have hdigits : (Bits.toHex bits).length ≤ hex.digits := by
    rw [Bits.length_toHex]
    show _ ≤ 8
    omega
  have hread : hex.read text = .accepted (String.ofList (Bits.toHex bits)) none := by
    apply read_of_body
    · rw [hbody, String.toList_ofList]
    · rw [String.toList_ofList]
      exact Bits.isDigit_of_mem_toHex bits
    · rwa [String.toList_ofList]
  unfold readBits
  rw [hread, Outcome.map, String.toList_ofList, Bits.ofHex_toHex, Bits.map_clean_of_isBits hbits]

theorem readBits_toHex {word : String} (hbits : Bits.IsBits word.toList)
    (hle : word.toList.length ≤ 32) (hwhole : word.toList.length % 4 = 0) :
    hex.readBits (String.ofList (Bits.toHex word.toList)) = .accepted word none := by
  have hdigits : ∀ c ∈ Bits.toHex word.toList, hex.base.isDigit c = true :=
    Bits.isDigit_of_mem_toHex word.toList
  have hbody : body (String.ofList (Bits.toHex word.toList)).toList = Bits.toHex word.toList := by
    rw [String.toList_ofList]
    exact body_of_isDigit hdigits
  rw [readBits_of_body_toHex hbody hbits hle, Bits.padTo_of_le (by omega), String.ofList_toList]

end MipsWord.WordFormat
