import MipsWord.Proofs.Encode.Number
import MipsWord.Proofs.Instruction.Decode

namespace MipsWord

variable {field : NumberField} {text : String} {value : Int}

def Literal.Denotes (text : List Char) (value : Int) : Prop :=
  ∃ literal : Literal, literal.Reads text ∧ literal.toInt = value

theorem Literal.Denotes.unique {text : List Char} {v w : Int} (hv : Denotes text v)
    (hw : Denotes text w) : v = w := by
  obtain ⟨literal, hliteral, rfl⟩ := hv
  obtain ⟨other, hother, rfl⟩ := hw
  rw [← read?_eq_some_iff] at hliteral hother
  rw [hliteral, Option.some.injEq] at hother
  rw [hother]

namespace NumberField

/--
The bits are as many as the field has. They are those of the integer modulo the capacity of the field, and if
the field is signed, then those of the integer in two's complement.
-/
structure Writes (field : NumberField) (bits : List Char) (value : Int) : Prop where
  isBits : Bits.IsBits bits
  length : bits.length = field.width
  value_eq : (Bits.value bits : Int) = value % Bits.capacity field.width
  signedValue_eq : field = .signedImmediate → Bits.signedValue bits = value

theorem pack_eq_ofNat (field : NumberField) (n : Nat) :
    pack [(field.name, n)] = Bits.ofNat field.width n :=
  List.flatMap_singleton ..

theorem writes_of_fits (h : field.Fits value) :
    field.Writes (pack [(field.name, (value % Bits.capacity field.width).toNat)]) value := by
  have hpos : 0 < field.width := field.name.width_pos
  have hle : field.width ≤ wordBits := field.name.width_le
  have hnonneg : 0 ≤ value % Bits.capacity field.width := by
    have hcapacity := Bits.capacity_pos field.width
    exact Int.emod_nonneg value (by omega)
  have hlength : (Bits.ofNat field.width (value % Bits.capacity field.width).toNat).length
      = field.width := Bits.length_ofNat hpos (emod_capacity_lt field.width value)
  rw [pack_eq_ofNat]
  constructor
  · exact Bits.isBits_ofNat _ _
  · exact hlength
  · rw [Bits.value_eq_toNat (by omega), Bits.toNat_ofNat]
    exact Int.toNat_of_nonneg hnonneg
  · rintro rfl
    exact holds_of_fits h

theorem read_of_denotes_of_fits (hdenotes : Literal.Denotes text.toList value)
    (hfits : field.Fits value) :
    ∃ number, field.read text = .ok number ∧
      field.Writes (pack [(field.name, number.value)]) value := by
  obtain ⟨literal, hreads, rfl⟩ := hdenotes
  exact ⟨_, read_eq_ok hreads hfits, writes_of_fits hfits⟩

theorem read_of_denotes_of_not_fits (hdenotes : Literal.Denotes text.toList value)
    (hfits : ¬ field.Fits value) : field.read text = .error (.outOfRange field text) := by
  obtain ⟨literal, hreads, rfl⟩ := hdenotes
  exact read_eq_outOfRange hreads hfits

theorem read_of_not_denotes (h : ∀ value, ¬ Literal.Denotes text.toList value) :
    field.read text = .error (.notANumber field text) := by
  apply read_eq_notANumber
  intro literal hreads
  exact h literal.toInt ⟨literal, hreads, rfl⟩

theorem read_eq_notANumber_iff :
    field.read text = .error (.notANumber field text) ↔
      ∀ value, ¬ Literal.Denotes text.toList value := by
  constructor
  · intro hread value hdenotes
    by_cases hfits : field.Fits value
    · obtain ⟨number, hok, -⟩ := read_of_denotes_of_fits hdenotes hfits
      rw [hok] at hread
      contradiction
    · rw [read_of_denotes_of_not_fits hdenotes hfits] at hread
      cases hread
  · exact read_of_not_denotes

theorem read_eq_outOfRange_iff :
    field.read text = .error (.outOfRange field text) ↔
      ∃ value, Literal.Denotes text.toList value ∧ ¬ field.Fits value := by
  constructor
  · intro hread
    by_cases hdenotes : ∃ value, Literal.Denotes text.toList value
    · obtain ⟨value, hvalue⟩ := hdenotes
      refine ⟨value, hvalue, ?_⟩
      intro hfits
      obtain ⟨number, hok, -⟩ := read_of_denotes_of_fits hvalue hfits
      rw [hok] at hread
      contradiction
    · rw [read_of_not_denotes (not_exists.1 hdenotes)] at hread
      cases hread
  · rintro ⟨value, hdenotes, hfits⟩
    exact read_of_denotes_of_not_fits hdenotes hfits

theorem read_verdict (field : NumberField) (text : String) :
    (∀ v w, Literal.Denotes text.toList v → Literal.Denotes text.toList w → v = w) ∧
      (field.read text = .error (.notANumber field text) ↔
        ∀ value, ¬ Literal.Denotes text.toList value) ∧
      (field.read text = .error (.outOfRange field text) ↔
        ∃ value, Literal.Denotes text.toList value ∧ ¬ field.Fits value) ∧
      (∀ value, Literal.Denotes text.toList value → field.Fits value →
        ∃ number, field.read text = .ok number ∧
          field.Writes (pack [(field.name, number.value)]) value) ∧
      ∀ value, Literal.Denotes text.toList value → Bits.capacity 63 ≤ value.natAbs →
        field.read text = .error (.outOfRange field text) := by
  refine ⟨?_, read_eq_notANumber_iff, read_eq_outOfRange_iff, ?_, ?_⟩
  · intro v w
    exact Literal.Denotes.unique
  · intro value
    exact read_of_denotes_of_fits
  · intro value hdenotes hlarge
    apply read_of_denotes_of_not_fits hdenotes
    intro hfits
    exact Nat.not_lt.2 hlarge hfits.natAbs_lt

theorem read_verdict_edges :
    Literal.Denotes "-0x8000zz".toList (-32768) ∧
      (∃ number, signedImmediate.read "-0x8000zz" = .ok number ∧
        signedImmediate.Writes (pack [(.immediate, number.value)]) (-32768)) ∧
      Literal.Denotes "18446744073709551621".toList 18446744073709551621 ∧
      jumpAddress.read "18446744073709551621"
        = .error (.outOfRange jumpAddress "18446744073709551621") := by
  have hleast : Literal.Denotes "-0x8000zz".toList (-32768) := by
    refine ⟨⟨true, .hexadecimal, "8000".toList, "zz".toList⟩, ?_, by decide⟩
    rw [← Literal.read?_eq_some_iff]
    decide
  -- The number is 5 more than `2 ^ 64`, and 5 would fit.
  have hlarge : Literal.Denotes "18446744073709551621".toList 18446744073709551621 := by
    refine ⟨⟨false, .decimal, "18446744073709551621".toList, []⟩, ?_, by decide +kernel⟩
    rw [← Literal.read?_eq_some_iff]
    decide +kernel
  obtain ⟨-, -, -, hfits, -⟩ := read_verdict signedImmediate "-0x8000zz"
  obtain ⟨-, -, -, -, hoverflow⟩ := read_verdict jumpAddress "18446744073709551621"
  exact ⟨hleast, hfits _ hleast (fits_iff.2 (by decide)), hlarge, hoverflow _ hlarge (by decide)⟩

end NumberField
end MipsWord
