import MipsWord.Proofs.Line.Token
import MipsWord.Proofs.Tables.Plain

/-!
This module contains what becomes of a register that is shown by its name and then read in a line. Lines are
read in lower case, numbers are tried before names, and registers without a name are all shown alike. Hence a
register can be taken for another one in three ways, and in no others.
-/

namespace MipsWord

open Text

variable {tables : Tables} {name : String} {number other : Nat}

def lowered (text : String) : String :=
  String.ofList (lower text.toList)

theorem toList_lowered (text : String) : (lowered text).toList = lower text.toList :=
  String.toList_ofList

theorem lowered_eq_self (h : lower name.toList = name.toList) : lowered name = name := by
  rw [lowered, h, String.ofList_toList]

theorem lowered_of_isNumeral (h : IsNumeral name) : lowered name = name := by
  apply lowered_eq_self
  apply lower_of_isLower
  intro c hc
  exact (plain_char (.inr (.inl (h.2 c hc)))).2

theorem isNumeral_lowered_iff : IsNumeral (lowered name) ↔ IsNumeral name := by
  constructor
  · intro h
    have hdigits := h.2
    rw [toList_lowered] at hdigits
    rwa [lowered_eq_self (lower_eq_of_digits hdigits)] at h
  · intro h
    rwa [lowered_of_isNumeral h]

/--
A register that is shown by its name and read back as another one: because its name is the number of the other,
because its name is that of the other but for capital letters, or because it has no name and the other is named
like the placeholder.
-/
inductive Tables.Mistaken (tables : Tables) (number other : Nat) : Prop where
  | numeral {name : String} (hmem : ⟨number, name⟩ ∈ tables.registers) (hnumeral : IsNumeral name)
      (hvalue : Nat.ofDigitChars 10 name.toList 0 = other) (hle : other ≤ 31) (hne : other ≠ number)
  | capitals {name : String} (hmem : ⟨number, name⟩ ∈ tables.registers) (hnumeral : ¬ IsNumeral name)
      (hne : lowered name ≠ name) (hother : ⟨other, lowered name⟩ ∈ tables.registers)
  | unnamed (hnone : ∀ name, ⟨number, name⟩ ∉ tables.registers)
      (hother : ⟨other, "unknown"⟩ ∈ tables.registers)

theorem mistaken_of_named (hmem : ⟨number, name⟩ ∈ tables.registers)
    (hdenotes : tables.Denotes (lowered name) other) (hne : other ≠ number) :
    tables.Mistaken number other := by
  cases hdenotes with
  | number hnumeral hle hvalue =>
    rw [isNumeral_lowered_iff] at hnumeral
    rw [lowered_of_isNumeral hnumeral] at hvalue
    exact .numeral hmem hnumeral hvalue hle hne
  | name hnumeral hother =>
    rw [isNumeral_lowered_iff] at hnumeral
    refine .capitals hmem hnumeral ?_ hother
    intro hlower
    rw [hlower] at hother
    exact hne (Tables.number_unique hother hmem)

theorem lowered_unknown : lowered "unknown" = "unknown" := by
  decide

theorem mistaken_of_resolve? (hresolve : tables.resolve? (lowered (tables.token .names number)) = some other)
    (hne : other ≠ number) : tables.Mistaken number other := by
  rw [Tables.resolve?_eq_some_iff] at hresolve
  by_cases hnamed : ∃ name, ⟨number, name⟩ ∈ tables.registers
  · obtain ⟨name, hmem⟩ := hnamed
    rw [token_names_of_mem hmem] at hresolve
    exact mistaken_of_named hmem hresolve hne
  · rw [not_exists] at hnamed
    rw [token_names_of_unnamed hnamed, lowered_unknown] at hresolve
    cases hresolve with
    | number hnumeral => exact absurd hnumeral (by decide)
    | name hnumeral hother => exact .unnamed hnamed hother

theorem Tables.Mistaken.resolve? (h : tables.Mistaken number other) :
    tables.resolve? (lowered (tables.token .names number)) = some other := by
  rw [Tables.resolve?_eq_some_iff]
  cases h with
  | numeral hmem hnumeral hvalue hle hne =>
    rw [token_names_of_mem hmem, lowered_of_isNumeral hnumeral]
    exact .number hnumeral hle hvalue
  | capitals hmem hnumeral hne hother =>
    rw [token_names_of_mem hmem]
    exact .name (mt isNumeral_lowered_iff.1 hnumeral) hother
  | unnamed hnone hother =>
    rw [token_names_of_unnamed hnone, lowered_unknown]
    exact .name (by decide) hother

theorem Tables.Mistaken.ne (h : tables.Mistaken number other) : other ≠ number := by
  cases h with
  | numeral hmem hnumeral hvalue hle hne => exact hne
  | capitals hmem hnumeral hne hother =>
    rintro rfl
    exact hne (Tables.name_unique hother hmem)
  | unnamed hnone hother =>
    rintro rfl
    exact hnone _ hother

def EndsRegister (text : List Char) : Prop :=
  ∀ c ∈ text.head?, isBlank c = true ∨ c = ',' ∨ c = ')'

theorem EndsRegister.caseless {c : Char} {text : List Char} (h : EndsRegister (c :: text)) :
    Caseless c := by
  obtain hblank | rfl | rfl := h c rfl
  · exact caseless_of_isBlank c hblank
  · decide +kernel
  · decide +kernel

theorem EndsRegister.stops {text : List Char} (h : EndsRegister text) : Stops isWordChar text := by
  intro c hc
  obtain hblank | rfl | rfl := h c hc
  · exact isWordChar_eq_false_of_isBlank hblank
  · decide
  · decide

theorem endsRegister_lower {after : List Char} (h : EndsRegister after) :
    EndsRegister (lower after) := by
  cases after with
  | nil => exact h
  | cons c after =>
    rw [lower_cons_caseless h.caseless]
    exact h

theorem lower_append_of_endsRegister {after : List Char} (h : EndsRegister after) (text : List Char) :
    lower (text ++ after) = lower text ++ lower after := by
  cases after with
  | nil =>
    rw [List.append_nil]
    exact (List.append_nil _).symm
  | cons c after => rw [lower_append_caseless h.caseless, lower_cons_caseless h.caseless]

theorem lower_register {after : List Char} (h : EndsRegister after) (before : List Char)
    (name : String) :
    lower (before ++ '$' :: (name.toList ++ after)) =
      lower before ++ '$' :: ((lowered name).toList ++ lower after) := by
  have hdollar : Caseless '$' := by decide +kernel
  rw [lower_append_caseless hdollar, lower_append_of_endsRegister h, toList_lowered]

theorem shown_register_read_back (tables : Tables) (bits : List Char) :
    ∃ name, Reading.register tables .names bits = some ("$" ++ name) ∧
      (∀ other, (tables.resolve? (lowered name) = some other ∧ other ≠ Bits.value bits) ↔
        tables.Mistaken (Bits.value bits) other) ∧
      ∀ before after : List Char, EndsRegister after →
        lower (before ++ '$' :: (name.toList ++ after)) =
            lower before ++ '$' :: ((lowered name).toList ++ lower after) ∧
          (IsWord (lowered name).toList →
            Line.register? ('$' :: ((lowered name).toList ++ lower after)) =
              some (lowered name, lower after)) := by
  refine ⟨tables.token .names (Bits.value bits), rfl, ?_, ?_⟩
  · intro other
    constructor
    · rintro ⟨hresolve, hne⟩
      exact mistaken_of_resolve? hresolve hne
    · intro hmistaken
      exact ⟨hmistaken.resolve?, hmistaken.ne⟩
  · intro before after hafter
    refine ⟨lower_register hafter before _, ?_⟩
    intro hword
    rw [← List.cons_append]
    exact Line.register?_append (.intro hword) (endsRegister_lower hafter).stops

def Tables.clashing : Tables where
  specs := [⟨"add", 0, some 32, .r, "Add"⟩]
  registers := [⟨8, "T0"⟩, ⟨9, "t0"⟩, ⟨10, "5"⟩, ⟨11, "unknown"⟩]
  consistent := firstConflict?_eq_none_iff.1 (by decide)

theorem shown_register_read_back_capital :
    Tables.clashing.Mistaken 8 9 ∧
      lower "$T0,".toList = "$t0,".toList ∧
      Line.register? "$t0,".toList = some ("t0", [',']) := by
  obtain ⟨name, hname, hmistaken, hread⟩ := shown_register_read_back Tables.clashing "01000".toList
  have hshown : Reading.register Tables.clashing .names "01000".toList = some "$T0" := by
    decide +kernel
  have htoken : name = "T0" := by
    rw [hshown, Option.some.injEq] at hname
    apply String.toList_injective
    have hlist : "$T0".toList = ("$" ++ name).toList := congrArg String.toList hname
    rw [String.toList_append] at hlist
    exact (List.cons.inj hlist).2.symm
  subst htoken
  have hends : EndsRegister [','] := by
    intro c hc
    exact .inr (.inl (Option.some.inj hc).symm)
  obtain ⟨hlower, hregister⟩ := hread [] [','] hends
  have hname : lowered "T0" = "t0" := by decide
  have hrest : lower [','] = [','] := by decide +kernel
  rw [hname, hrest] at hlower hregister
  have hplain : IsPlain "t0" := by decide
  exact ⟨(hmistaken 9).1 ⟨by decide +kernel, by decide +kernel⟩, hlower,
    hregister hplain.isWord⟩

theorem clashing_read_back_ne :
    (Bits.value "01000".toList = 8 ∧
        Reading.register Tables.clashing .names "01000".toList = some "$T0" ∧
        Tables.clashing.resolve? (lowered "T0") = some 9) ∧
      (Bits.value "01010".toList = 10 ∧
        Reading.register Tables.clashing .names "01010".toList = some "$5" ∧
        Tables.clashing.resolve? (lowered "5") = some 5) ∧
      (Bits.value "00001".toList = 1 ∧
        Reading.register Tables.clashing .names "00001".toList = some "$unknown" ∧
        Tables.clashing.resolve? (lowered "unknown") = some 11) ∧
      (decode Tables.clashing .fallback "00000001010000010100000000100000").text?
        = some "add $T0, $5, $unknown" ∧
      (encode Tables.clashing "add $T0, $5, $unknown").value?
        = some "00000000101010110100100000100000" := by
  decide +kernel

end MipsWord
