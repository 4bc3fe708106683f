import MipsWord.Proofs.Encode.Verdict
import MipsWord.Proofs.Line.Replacement
import MipsWord.Proofs.Numeral.Longest

namespace MipsWord

open Text

variable {tables : Tables} {line : Line} {word literal other : String} {note : Option String}
  {text part : List Char}

theorem Operands.literal?_withLiteral {ρ : Type} {operands : Operands ρ}
    (h : operands.literal? = some literal) : (operands.withLiteral other).literal? = some other := by
  cases operands with
  | threeRegister | twoRegister | oneRegister => contradiction
  | twoRegisterImmediate | loadStore | jump => rfl

theorem Operands.replace?_withLiteral {ρ σ : Type} {f : ρ → Option σ} {operands : Operands ρ}
    {numbers : Operands σ} (h : operands.replace? f = some numbers) :
    (operands.withLiteral other).replace? f = some (numbers.withLiteral other) := by
  cases operands with
  | jump literal =>
    cases h
    rfl
  | oneRegister a =>
    obtain ⟨b, hb, rfl⟩ := Option.map_eq_some_iff.1 h
    exact h
  | threeRegister | twoRegisterImmediate | loadStore | twoRegister =>
    simp only [replace?] at h
    split at h
    · cases h
      simp_all [replace?, withLiteral]
    · contradiction

def Placement.withLiteral (literal : String) : Placement → Placement
  | registers rs rt rd => registers rs rt rd
  | shift rt rd _ => shift rt rd literal
  | immediate rs rt _ => immediate rs rt literal
  | jump _ => jump literal

theorem Operands.Places.withLiteral {family : Family} {operands : Operands Nat} {placement : Placement}
    (h : operands.Places family placement) :
    (operands.withLiteral other).Places family (placement.withLiteral other) := by
  cases h with
  | threeRegister h => exact .threeRegister h
  | twoRegister h => exact .twoRegister h
  | jumpRegister h => exact .jumpRegister h
  | moveFrom h => exact .moveFrom h
  | shift h => exact .shift h
  | immediate h => exact .immediate h
  | loadStore h => exact .loadStore h
  | jump h => exact .jump h

theorem Spec.word_withLiteral (spec : Spec) (placement : Placement) (number : FieldNumber) :
    (spec.word (placement.withLiteral literal) number) = spec.word placement number := by
  have hcontent : spec.content (placement.withLiteral literal) number.value
      = spec.content placement number.value := by
    funext name
    cases placement <;> cases name <;> rfl
  have hformat : (placement.withLiteral literal).format = placement.format := by
    cases placement <;> rfl
  unfold Spec.word
  rw [hcontent, hformat]

theorem Line.exists_outcome_withLiteral (h : line.outcome tables = .accepted word note)
    (hliteral : line.operands.literal? = some literal) :
    ∃ spec ∈ tables.specs, spec.mnemonic = line.mnemonic ∧
      ∃ number : Literal, number.Reads literal.toList ∧ note = spec.numberField.note? literal number ∧
        ∀ (other : String) (again : Literal), again.Reads other.toList → again.toInt = number.toInt →
          (line.withLiteral other).outcome tables =
            .accepted word (spec.numberField.note? other again) := by
  obtain ⟨encoded, hencode, rfl, rfl⟩ := outcome_eq_accepted_iff.1 h
  obtain ⟨spec, numbers, placement, number, hspec, hreplace, hplaces, hread, rfl⟩ :=
    exists_places_of_encode hencode
  obtain ⟨hmem, hmnemonic⟩ := Tables.byMnemonic_eq_some_iff.1 hspec
  have hnumbers : numbers.literal? = some literal := by
    rw [(Operands.of_replace?_eq_some hreplace).2.1, hliteral]
  rw [hplaces.readOption_eq, hnumbers] at hread
  obtain ⟨value, hreads, hfits, -⟩ := NumberField.exists_reads_of_read hread
  rw [NumberField.readOption, NumberField.read_eq_ok hreads hfits] at hread
  cases hread
  refine ⟨spec, hmem, hmnemonic, value, hreads, rfl, ?_⟩
  intro other again hagain hvalue
  have hplaced : (numbers.withLiteral other).Places spec.family (placement.withLiteral other) :=
    hplaces.withLiteral
  have hagainFits : spec.numberField.Fits again.toInt := by rwa [hvalue]
  have hencoded : (line.withLiteral other).encode tables = _ :=
    encode_of_places hspec (Operands.replace?_withLiteral hreplace) hplaced
  rw [hplaced.readOption_eq, Operands.literal?_withLiteral hnumbers, NumberField.readOption,
    NumberField.read_eq_ok hagain hagainFits, hvalue] at hencoded
  refine outcome_eq_accepted_iff.2 ⟨_, hencoded, ?_, rfl⟩
  rw [Spec.word_withLiteral]
  rfl

theorem IsNumber.ne_nil (h : IsNumber part) : part ≠ [] := by
  cases h with
  | intro negative base hne hdigits => simp [hne]

theorem IsNumber.ne_minus (h : IsNumber part) : part ≠ ['-'] := by
  cases h with
  | @intro negative base digits hne hdigits =>
    have hstop := Literal.stops_minus_append hne hdigits []
    rw [List.append_nil] at hstop
    cases negative with
    | true => simp [hne]
    | false =>
      intro hminus
      have hbody : base.marker ++ digits = ['-'] := hminus
      simp [hbody] at hstop

theorem IsLiteral.of_isNumber (h : IsLiteral text) (hnumber : IsNumber part) (hstart : part <+: text) :
    IsLiteral part := by
  cases part with
  | nil => exact absurd rfl hnumber.ne_nil
  | cons c part =>
    cases h with
    | @unsigned digit more hdigit hmore =>
      obtain ⟨rfl, hrest⟩ := List.cons_prefix_cons.1 hstart
      exact .unsigned hdigit fun c hc => hmore c (hrest.mem hc)
    | @negative digit more hdigit hmore =>
      obtain ⟨rfl, hrest⟩ := List.cons_prefix_cons.1 hstart
      cases part with
      | nil => exact absurd rfl hnumber.ne_minus
      | cons d part =>
        obtain ⟨rfl, hlast⟩ := List.cons_prefix_cons.1 hrest
        exact .negative hdigit fun c hc => hmore c (hlast.mem hc)

theorem IsNumber.toNat_lt (h : IsNumber part) : ∀ c ∈ part, c.toNat < 128 := by
  cases h with
  | @intro negative base digits hne hdigits =>
    have hsign : ((if negative then ['-'] else []).all fun c => c.toNat < 128) = true := by
      cases negative <;> rfl
    have hmarker : (base.marker.all fun c => c.toNat < 128) = true := by
      cases base <;> rfl
    intro c hc
    rw [List.mem_append, List.mem_append] at hc
    obtain (hc | hc) | hc := hc
    · exact of_decide_eq_true (List.all_eq_true.1 hsign c hc)
    · exact of_decide_eq_true (List.all_eq_true.1 hmarker c hc)
    · exact Base.toNat_lt_of_isDigit (hdigits c hc)

theorem IsLongestNumber.eq_consumed {number : Literal} (h : IsLongestNumber text part)
    (hreads : number.Reads text) : part = number.consumed :=
  h.unique hreads.isLongestNumber

theorem Literal.Reads.length_consumed_lt_iff {number : Literal} (h : number.Reads text) :
    number.consumed.length < text.length ↔ number.rest ≠ [] := by
  rw [h.eq_append, List.length_append, ← List.length_pos_iff]
  omega

theorem note?_ne_none_iff {field : NumberField} {number : Literal} (h : number.Reads literal.toList) :
    field.note? literal number ≠ none ↔
      ∃ part, IsLongestNumber literal.toList part ∧ part.length < literal.toList.length := by
  constructor
  · intro hnote
    refine ⟨number.consumed, h.isLongestNumber, ?_⟩
    rw [h.length_consumed_lt_iff]
    exact mt NumberField.note?_of_nil hnote
  · rintro ⟨part, hpart, hlt⟩
    rw [hpart.eq_consumed h, h.length_consumed_lt_iff] at hlt
    rw [NumberField.note?_of_ne_nil hlt]
    exact Option.some_ne_none _

theorem Line.note_eq_none_of_literal? (h : line.outcome tables = .accepted word note)
    (hliteral : line.operands.literal? = none) : note = none := by
  cases exists_outcome_eq_accepted_iff.1 ⟨word, h⟩ with
  | noLiteral | whole => rfl
  | part hchecked hsome =>
    rw [hliteral] at hsome
    contradiction

theorem Line.message?_ne_none_iff (h : line.outcome tables = .accepted word note) :
    (line.outcome tables).message? ≠ none ↔ ∃ literal part, line.operands.literal? = some literal ∧
      IsLongestNumber literal.toList part ∧ part.length < literal.toList.length := by
  have hnote : (line.outcome tables).message? ≠ none ↔ note ≠ none := by
    rw [h]
    cases note <;> simp [Outcome.message?]
  rw [hnote]
  cases hliteral : line.operands.literal? with
  | none =>
    rw [note_eq_none_of_literal? h hliteral]
    simp
  | some literal =>
    obtain ⟨spec, -, -, number, hreads, rfl, -⟩ := exists_outcome_withLiteral h hliteral
    rw [note?_ne_none_iff hreads]
    simp

theorem Line.message?_of_part (h : line.outcome tables = .accepted word note)
    (hliteral : line.operands.literal? = some literal) (hpart : IsLongestNumber literal.toList part)
    (hlt : part.length < literal.toList.length) :
    (∃ spec ∈ tables.specs, spec.mnemonic = line.mnemonic ∧
      (line.outcome tables).message? = some
        { text := spec.numberField.label ++ " \"" ++ literal ++ "\" read as " ++ String.ofList part
          severity := .info }) ∧
      (line.withLiteral (String.ofList part)).outcome tables = .accepted word none := by
  obtain ⟨spec, hmem, hmnemonic, number, hreads, rfl, hagain⟩ := exists_outcome_withLiteral h hliteral
  obtain rfl := hpart.eq_consumed hreads
  rw [hreads.length_consumed_lt_iff] at hlt
  constructor
  · refine ⟨spec, hmem, hmnemonic, ?_⟩
    rw [h, NumberField.note?_of_ne_nil hlt]
    rfl
  · have halone : { number with rest := [] }.Reads (String.ofList number.consumed).toList := by
      rw [String.toList_ofList]
      exact hreads.consumed
    exact hagain _ _ halone rfl

theorem lower_of_isNumber {written : List Char} (h : IsNumber part) (hstart : part <+: lower written) :
    lower part = part := by
  apply lower_of_isLower
  intro c hc
  exact ⟨h.toNat_lt c hc, toLower_eq_of_mem_lower (hstart.mem hc)⟩

theorem encode_remark {text : String} (h : (encode tables text).value? = some word) :
    ∃ line, Line.read? text = some line ∧
      ((encode tables text).message? ≠ none ↔ ∃ literal part, line.operands.literal? = some literal ∧
        IsLongestNumber literal.toList part ∧ part.length < literal.toList.length) ∧
      ∀ literal part, line.operands.literal? = some literal → IsLongestNumber literal.toList part →
        part.length < literal.toList.length →
          (∃ spec ∈ tables.specs, spec.mnemonic = line.mnemonic ∧
            (encode tables text).message? = some
              { text := spec.numberField.label ++ " \"" ++ literal ++ "\" read as " ++ String.ofList part
                severity := .info }) ∧
          part ≠ [] ∧ part <+: literal.toList ∧ part ≠ literal.toList ∧ IsLiteral part ∧
          lower part = part ∧
          ∃ front written back, text.toList = front ++ (written ++ back) ∧
            lower written = literal.toList ∧
            ∀ again, lower again = part →
              Line.read? (String.ofList (front ++ (again ++ back))) =
                  some (line.withLiteral (String.ofList part)) ∧
                grammarOf? (String.ofList (front ++ (again ++ back))) = grammarOf? text ∧
                encode tables (String.ofList (front ++ (again ++ back))) = .accepted word none := by
  obtain ⟨line, note, hspells, houtcome⟩ := exists_spells_of_value? h
  have hread : Line.read? text = some line := Line.ofChars?_eq_some_iff.2 hspells
  rw [encode_of_spells hspells]
  refine ⟨line, hread, Line.message?_ne_none_iff houtcome, ?_⟩
  intro literal part hliteral hpart hlt
  obtain ⟨hmessage, hagain⟩ := Line.message?_of_part houtcome hliteral hpart hlt
  obtain ⟨front, written, back, htext, hwritten, hspelled⟩ := hspells.exists_written hliteral
  have hisLiteral := hspells.isLiteral hliteral
  have hisPart : IsLiteral part := hisLiteral.of_isNumber hpart.isNumber hpart.start
  have hlower : lower part = part := by
    apply lower_of_isNumber hpart.isNumber
    rw [hwritten]
    exact hpart.start
  have hne : part ≠ literal.toList := by
    rintro rfl
    exact Nat.lt_irrefl _ hlt
  refine ⟨hmessage, hpart.isNumber.ne_nil, hpart.start, hne, hisPart, hlower, front, written, back, htext,
    hwritten, ?_⟩
  intro again hform
  rw [← String.toList_ofList (l := part)] at hisPart hform
  have hnew := hspelled _ again hisPart hform
  have hreadNew : Line.read? (String.ofList (front ++ (again ++ back)))
      = some (line.withLiteral (String.ofList part)) := Line.ofChars?_eq_some_iff.2 hnew
  refine ⟨hreadNew, ?_, ?_⟩
  · unfold grammarOf?
    rw [hreadNew, hread]
    exact congrArg some Operands.grammar_withLiteral
  · rw [encode_of_spells hnew, hagain]

theorem encode_remark_offset :
    (encode Tables.builtin " LW $T0 ,\t-0B102zz ( $sp )").value?
        = some "10001111101010001111111111111110" ∧
      (encode Tables.builtin " LW $T0 ,\t-0B102zz ( $sp )").message?
        = some { text := "immediate \"-0b102zz\" read as -0b10", severity := .info } ∧
      ∃ front written back : List Char,
        " LW $T0 ,\t-0B102zz ( $sp )".toList = front ++ (written ++ back) ∧
          lower written = "-0b102zz".toList ∧
          encode Tables.builtin (String.ofList (front ++ ("-0b10".toList ++ back)))
            = .accepted "10001111101010001111111111111110" none := by
  have hvalue : (encode Tables.builtin " LW $T0 ,\t-0B102zz ( $sp )").value?
      = some "10001111101010001111111111111110" := by decide +kernel
  obtain ⟨line, hread, -, hremark⟩ := encode_remark hvalue
  have hline : Line.read? " LW $T0 ,\t-0B102zz ( $sp )"
      = some ⟨"lw", .loadStore "t0" (some "-0b102zz") "sp"⟩ := by decide +kernel
  rw [hline, Option.some.injEq] at hread
  subst hread
  have hpart : IsLongestNumber "-0b102zz".toList "-0b10".toList := by
    have hreads : Literal.Reads ⟨true, .binary, "10".toList, "2zz".toList⟩ "-0b102zz".toList :=
      Literal.read?_eq_some_iff.1 (by decide)
    exact hreads.isLongestNumber
  obtain ⟨-, -, -, -, -, hlower, front, written, back, htext, hwritten, hagain⟩ :=
    hremark "-0b102zz" "-0b10".toList rfl hpart (by decide)
  obtain ⟨-, -, hencode⟩ := hagain "-0b10".toList hlower
  exact ⟨hvalue, by decide +kernel, front, written, back, htext, hwritten, hencode⟩

end MipsWord
