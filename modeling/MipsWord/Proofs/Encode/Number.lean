import MipsWord.Encode.Number
import MipsWord.Proofs.Bits.Number
import MipsWord.Proofs.Numeral.Format

namespace MipsWord.NumberField

variable {field : NumberField} {text : String} {literal : Literal} {value : Int}

def Fits : NumberField → Int → Prop
  | signedImmediate, value => -32768 ≤ value ∧ value ≤ 32767
  | unsignedImmediate, value => 0 ≤ value ∧ value ≤ 65535
  | shiftAmount, value => 0 ≤ value ∧ value ≤ 31
  | jumpAddress, value => 0 ≤ value ∧ value ≤ 67108863

theorem fits_iff : field.Fits value ↔ field.least ≤ value ∧ value ≤ field.greatest := by
  cases field <;> exact Iff.rfl

theorem Fits.natAbs_lt (h : field.Fits value) : value.natAbs < Bits.capacity 63 := by
  -- No number in range is lost to overflow, as all ranges lie far inside 63 bits.
  have hcapacity : Bits.capacity 63 = 9223372036854775808 := rfl
  cases field
  all_goals
    unfold Fits at h
    omega

theorem natAbs_toInt (literal : Literal) :
    literal.toInt.natAbs = literal.base.toNat literal.digits := by
  unfold Literal.toInt
  split <;> simp

theorem value?_of_fits (h : field.Fits literal.toInt) : literal.value? = some literal.toInt := by
  unfold Literal.value?
  rw [if_pos]
  rw [← natAbs_toInt]
  exact h.natAbs_lt

theorem eq_toInt_of_value? (h : literal.value? = some value) : value = literal.toInt := by
  unfold Literal.value? at h
  split at h
  · simpa using h.symm
  · contradiction

theorem read_eq_notANumber (h : ∀ literal : Literal, ¬ literal.Reads text.toList) :
    field.read text = .error (.notANumber field text) := by
  unfold read
  split
  · rfl
  · next literal hread => exact absurd (Literal.read?_eq_some_iff.1 hread) (h literal)

theorem read_eq_outOfRange (h : literal.Reads text.toList) (hfits : ¬ field.Fits literal.toInt) :
    field.read text = .error (.outOfRange field text) := by
  unfold read
  rw [Literal.read?_eq_some_iff.2 h]
  dsimp
  split
  · rfl
  · next value hvalue =>
    rw [eq_toInt_of_value? hvalue, if_neg]
    rw [← fits_iff]
    exact hfits

theorem read_eq_ok (h : literal.Reads text.toList) (hfits : field.Fits literal.toInt) :
    field.read text = .ok
      { value := (literal.toInt % Bits.capacity field.width).toNat
        note := field.note? text literal } := by
  unfold read
  rw [Literal.read?_eq_some_iff.2 h]
  simp only [value?_of_fits hfits]
  rw [if_pos]
  rw [← fits_iff]
  exact hfits

theorem read_cases (field : NumberField) (text : String) :
    field.read text = .error (.notANumber field text) ∨
      field.read text = .error (.outOfRange field text) ∨
      ∃ literal : Literal, literal.Reads text.toList ∧ field.Fits literal.toInt ∧
        field.read text = .ok
          { value := (literal.toInt % Bits.capacity field.width).toNat
            note := field.note? text literal } := by
  by_cases hreads : ∃ literal : Literal, literal.Reads text.toList
  · obtain ⟨literal, hliteral⟩ := hreads
    by_cases hfits : field.Fits literal.toInt
    · exact .inr (.inr ⟨literal, hliteral, hfits, read_eq_ok hliteral hfits⟩)
    · exact .inr (.inl (read_eq_outOfRange hliteral hfits))
  · exact .inl (read_eq_notANumber (not_exists.1 hreads))

theorem exists_reads_of_read {number : FieldNumber} (h : field.read text = .ok number) :
    ∃ literal : Literal, literal.Reads text.toList ∧ field.Fits literal.toInt ∧
      number.value = (literal.toInt % Bits.capacity field.width).toNat := by
  obtain hread | hread | ⟨literal, hreads, hfits, hread⟩ := field.read_cases text
  · rw [hread] at h
    contradiction
  · rw [hread] at h
    contradiction
  · rw [hread] at h
    cases h
    exact ⟨literal, hreads, hfits, rfl⟩

theorem read_ne_internal {what : String} (field : NumberField) :
    field.read text ≠ .error (.internal what) := by
  obtain hread | hread | ⟨_, -, -, hread⟩ := field.read_cases text
  all_goals
    rw [hread]
    simp

theorem read_zero : field.read "0" = .ok { value := 0, note := none } := by
  cases field <;> rfl

theorem note?_of_nil (h : literal.rest = []) : field.note? text literal = none := by
  unfold note?
  rw [h]

theorem note?_of_ne_nil (h : literal.rest ≠ []) :
    field.note? text literal =
      some (field.label ++ " \"" ++ text ++ "\" read as " ++ String.ofList literal.consumed) := by
  unfold note?
  split
  · next hnil => exact absurd hnil h
  · rfl

def Holds (field : NumberField) (bits : List Char) (value : Int) : Prop :=
  match field with
  | signedImmediate => Bits.signedValue bits = value
  | unsignedImmediate | shiftAmount | jumpAddress => (Bits.value bits : Int) = value

theorem emod_capacity_lt (width : Nat) (value : Int) :
    (value % Bits.capacity width).toNat < Bits.capacity width := by
  have hpos := Bits.capacity_pos width
  have hlt := Int.emod_lt_of_pos value (b := Bits.capacity width) (by omega)
  omega

theorem signedValue_ofNat (hlow : -32768 ≤ value) (hhigh : value ≤ 32767) :
    Bits.signedValue (Bits.ofNat 16 (value % Bits.capacity 16).toNat) = value := by
  have hhalf : Bits.capacity 15 = 32768 := rfl
  have hwhole : Bits.capacity 16 = 65536 := rfl
  have hlength : (Bits.ofNat 16 (value % Bits.capacity 16).toNat).length = 15 + 1 :=
    Bits.length_ofNat (by decide) (emod_capacity_lt 16 value)
  rw [Bits.signedValue_eq hlength (by decide), Bits.toNat_ofNat, hhalf, hwhole]
  split <;> omega

theorem value_ofNat {width : Nat} (hwidth : 0 < width) (hle : width ≤ wordBits) (hlow : 0 ≤ value)
    (hhigh : value < Bits.capacity width) :
    (Bits.value (Bits.ofNat width (value % Bits.capacity width).toNat) : Int) = value := by
  have hlength : (Bits.ofNat width (value % Bits.capacity width).toNat).length = width :=
    Bits.length_ofNat hwidth (emod_capacity_lt width value)
  rw [Bits.value_eq_toNat (by omega), Bits.toNat_ofNat, Int.emod_eq_of_lt hlow hhigh]
  omega

theorem holds_of_fits (h : field.Fits value) :
    field.Holds (Bits.ofNat field.width (value % Bits.capacity field.width).toNat) value := by
  cases field with
  | signedImmediate => exact signedValue_ofNat h.1 h.2
  | unsignedImmediate | shiftAmount | jumpAddress =>
    apply value_ofNat (by decide) (by decide) h.1
    exact Int.lt_of_le_of_lt h.2 (by decide)

theorem fits_of_holds {bits : List Char} (hlength : bits.length = field.width)
    (h : field.Holds bits value) :
    field.Fits value ∧ (value % Bits.capacity field.width).toNat = Bits.toNat bits := by
  have hlt := Bits.toNat_lt bits
  rw [hlength] at hlt
  cases field with
  | signedImmediate =>
    -- The sign bit decides in which half of the range the number lies.
    have hhalf : Bits.capacity 15 = 32768 := rfl
    have hwhole : Bits.capacity (15 + 1) = 65536 := rfl
    have hvalue : Bits.signedValue bits = value := h
    have hlt : Bits.toNat bits < Bits.capacity (15 + 1) := hlt
    rw [hwhole] at hlt
    rw [Bits.signedValue_eq hlength (by decide), hhalf, hwhole] at hvalue
    show (-32768 ≤ value ∧ value ≤ 32767) ∧ (value % Bits.capacity (15 + 1)).toNat = _
    rw [hwhole]
    split at hvalue <;> omega
  | unsignedImmediate | shiftAmount | jumpAddress =>
    have hvalue : (Bits.value bits : Int) = value := h
    rw [Bits.value_eq_toNat (by rw [hlength]; decide)] at hvalue
    rw [fits_iff, ← hvalue, Int.emod_eq_of_lt (Int.natCast_nonneg _) (Int.ofNat_lt.2 hlt)]
    refine ⟨⟨Int.natCast_nonneg _, ?_⟩, rfl⟩
    exact Int.le_sub_one_of_lt (Int.ofNat_lt.2 hlt)

theorem read_formatInt {bits : List Char} (hlength : bits.length = field.width)
    (h : field.Holds bits value) (base : Base) :
    field.read (base.formatInt value) = .ok { value := Bits.toNat bits, note := none } := by
  obtain ⟨hfits, hvalue⟩ := fits_of_holds hlength h
  rw [← base.toInt_literal value] at hfits
  rw [read_eq_ok (base.reads_formatInt value) hfits, base.toInt_literal, hvalue,
    note?_of_nil (base.rest_literal value)]

end MipsWord.NumberField
