import MipsWord.Proofs.Encode.Placement
import MipsWord.Proofs.Line.Reading

/-!
This module contains the steps of encoding a text, each opened once: what becomes of a line at each of its
checks, and what it means for a line to be encoded and for a text to be accepted. The checks on the encoder
itself are shown never to fail.
-/

namespace MipsWord

variable {tables : Tables} {text word : String} {note : Option String} {line : Line}

theorem encode_of_spells (h : line.Spells (Line.normalize text)) :
    encode tables text = line.outcome tables := by
  unfold encode Line.read?
  rw [Line.ofChars?_eq_some_iff.2 h]

theorem encode_eq_unrecognised (h : ∀ line : Line, ¬ line.Spells (Line.normalize text)) :
    encode tables text = .unrecognised := by
  unfold encode Line.read?
  split
  · rfl
  · next line hread => exact absurd (Line.ofChars?_eq_some_iff.1 hread) (h line)

theorem outcome_eq_accepted_iff :
    line.outcome tables = .accepted word note ↔
      ∃ encoded, line.encode tables = .ok encoded ∧ word = String.ofList encoded.word ∧
        note = encoded.note := by
  unfold Line.outcome
  split
  · next encoded h =>
    constructor
    · rintro ⟨⟩
      exact ⟨encoded, h, rfl, rfl⟩
    · rintro ⟨other, hother, rfl, rfl⟩
      rw [h] at hother
      cases hother
      rfl
  · next error h => simp [h]

theorem exists_spells_of_value? (h : (encode tables text).value? = some word) :
    ∃ line note, Line.Spells line (Line.normalize text) ∧
      line.outcome tables = .accepted word note := by
  unfold encode Line.read? at h
  split at h
  · contradiction
  · next line hread =>
    rw [Line.ofChars?_eq_some_iff] at hread
    cases houtcome : line.outcome tables with
    | accepted value note =>
      simp only [houtcome, Outcome.value?, Option.some.injEq] at h
      subst h
      exact ⟨line, note, hread, houtcome⟩
    | rejected reason => simp [houtcome, Outcome.value?] at h
    | unrecognised => simp [houtcome, Outcome.value?] at h

section Checks

variable {spec : Spec} {numbers : Operands Nat} {placement : Placement} {encoded : Encoded}

theorem encode_of_byMnemonic_eq_none (h : tables.byMnemonic line.mnemonic = none) :
    line.encode tables = .error (.unknownMnemonic line.mnemonic) := by
  unfold Line.encode
  rw [h]

variable (hspec : tables.byMnemonic line.mnemonic = some spec)

include hspec

theorem encode_of_replace?_eq_none (h : line.operands.replace? tables.resolve? = none) :
    line.encode tables = .error (.unknownRegisters
      (line.operands.registers.filter fun register => (tables.resolve? register).isNone)) := by
  obtain ⟨register, hmem, hnone⟩ := Operands.replace?_eq_none_iff.1 h
  obtain ⟨filled, hfill⟩ := line.operands.exists_fill_eq tables.resolve?
  have hunknown :
      (line.operands.registers.filter fun register => (tables.resolve? register).isNone) ≠ [] := by
    apply List.ne_nil_of_mem (a := register)
    exact List.mem_filter.2 ⟨hmem, by simp [hnone]⟩
  unfold Line.encode
  rw [hspec]
  show Except.bind (fill _ line.operands.grammar.slots _) _ = _
  rw [hfill]
  exact if_pos hunknown

theorem encode_of_accepts_eq_false (hreplace : line.operands.replace? tables.resolve? = some numbers)
    (h : line.grammar.accepts spec.family = false) :
    line.encode tables = .error (.formatMismatch spec.mnemonic) := by
  unfold Line.encode
  rw [hspec]
  show Except.bind (fill _ line.operands.grammar.slots _) _ = _
  rw [Operands.fill_eq_of_replace? hreplace]
  show (if line.grammar.accepts spec.family then _ else _) = _
  rw [h]
  rfl

omit hspec in
theorem number_le_of_places (hreplace : line.operands.replace? tables.resolve? = some numbers)
    (hplaces : numbers.Places spec.family placement) (name : FieldName) :
    placement.number name ≤ 31 := by
  by_cases hname : name ∈ spec.family.registerFields numbers.grammar
  · have hmem : placement.number name ∈ numbers.registers := by
      rw [← hplaces.map_number]
      apply List.mem_map_of_mem hname
    have hsome : some (placement.number name) ∈ line.operands.registers.map tables.resolve? := by
      rw [(Operands.of_replace?_eq_some hreplace).2.2]
      apply List.mem_map_of_mem hmem
    obtain ⟨register, -, hresolve⟩ := List.mem_map.1 hsome
    cases Tables.resolve?_eq_some_iff.1 hresolve with
    | number hnumeral hle hvalue => exact hle
    | name hnumeral hmem => exact tables.consistent.number_le _ hmem
  · rw [hplaces.number_eq_zero hname]
    decide

theorem content_lt_of_places {number : FieldNumber}
    (hreplace : line.operands.replace? tables.resolve? = some numbers)
    (hplaces : numbers.Places spec.family placement)
    (hread : spec.numberField.readOption placement.literal? = .ok number) :
    ∀ name ∈ layout (some placement.format),
      spec.content placement number.value name < Bits.capacity name.width := by
  have hwf := tables.consistent.wellFormed spec (Tables.byMnemonic_eq_some_iff.1 hspec).1
  exact Spec.content_lt hwf hplaces.suits (number_le_of_places hreplace hplaces) hread

theorem encode_of_places (hreplace : line.operands.replace? tables.resolve? = some numbers)
    (hplaces : numbers.Places spec.family placement) :
    line.encode tables
      = (spec.numberField.readOption placement.literal?).map (spec.word placement) := by
  have hgrammar : numbers.grammar = line.grammar := (Operands.of_replace?_eq_some hreplace).1
  have haccepts : line.grammar.accepts spec.family = true := by
    rw [← hgrammar]
    exact Operands.exists_places_iff.1 ⟨placement, hplaces⟩
  have hbind : ∀ built : Except EncodeError Encoded,
      built.bind (fun encoded => (spec.withOpcode encoded).check)
        = (built.map spec.withOpcode).bind Encoded.check := by
    intro built
    cases built <;> rfl
  unfold Line.encode
  rw [hspec]
  show Except.bind (fill _ line.operands.grammar.slots _) _ = _
  rw [Operands.fill_eq_of_replace? hreplace]
  show (if line.grammar.accepts spec.family then
    (spec.build line.grammar numbers.filled).bind _ else _) = _
  rw [if_pos haccepts, hbind, ← hgrammar, hplaces.map_build]
  cases hread : spec.numberField.readOption placement.literal? with
  | error error => rfl
  | ok number =>
    exact if_pos (length_packLayout (content_lt_of_places hspec hreplace hplaces hread))

end Checks

inductive Line.Encodes (tables : Tables) (line : Line) (result : Except EncodeError Encoded) :
    Prop where
  | unknownMnemonic (h : tables.byMnemonic line.mnemonic = none)
      (hresult : result = .error (.unknownMnemonic line.mnemonic))
  | unknownRegisters {names : List String} (h : line.operands.replace? tables.resolve? = none)
      (hresult : result = .error (.unknownRegisters names))
  | formatMismatch {spec : Spec} (h : line.grammar.accepts spec.family = false)
      (hresult : result = .error (.formatMismatch spec.mnemonic))
  | placed {spec : Spec} {numbers : Operands Nat} {placement : Placement}
      (hspec : tables.byMnemonic line.mnemonic = some spec)
      (hreplace : line.operands.replace? tables.resolve? = some numbers)
      (hplaces : numbers.Places spec.family placement)
      (hresult :
        result = (spec.numberField.readOption placement.literal?).map (spec.word placement))

theorem encodes_encode (tables : Tables) (line : Line) : line.Encodes tables (line.encode tables) := by
  cases hspec : tables.byMnemonic line.mnemonic with
  | none => exact .unknownMnemonic hspec (encode_of_byMnemonic_eq_none hspec)
  | some spec =>
    cases hreplace : line.operands.replace? tables.resolve? with
    | none => exact .unknownRegisters hreplace (encode_of_replace?_eq_none hspec hreplace)
    | some numbers =>
      cases haccepts : line.grammar.accepts spec.family with
      | false => exact .formatMismatch haccepts (encode_of_accepts_eq_false hspec hreplace haccepts)
      | true =>
        have hgrammar : numbers.grammar = line.grammar := (Operands.of_replace?_eq_some hreplace).1
        rw [← hgrammar] at haccepts
        obtain ⟨placement, hplaces⟩ := Operands.exists_places_iff.2 haccepts
        exact .placed hspec hreplace hplaces (encode_of_places hspec hreplace hplaces)

theorem exists_places_of_encode {encoded : Encoded} (h : line.encode tables = .ok encoded) :
    ∃ spec numbers placement number, tables.byMnemonic line.mnemonic = some spec ∧
      line.operands.replace? tables.resolve? = some numbers ∧
      numbers.Places spec.family placement ∧
      spec.numberField.readOption placement.literal? = .ok number ∧
      encoded = spec.word placement number := by
  have hencodes := encodes_encode tables line
  rw [h] at hencodes
  cases hencodes with
  | unknownMnemonic _ hresult | unknownRegisters _ hresult | formatMismatch _ hresult => contradiction
  | @placed spec numbers placement hspec hreplace hplaces hresult =>
    cases hread : spec.numberField.readOption placement.literal? with
    | error error =>
      rw [hread] at hresult
      contradiction
    | ok number =>
      rw [hread] at hresult
      cases hresult
      exact ⟨spec, numbers, placement, number, hspec, hreplace, hplaces, hread, rfl⟩

theorem Line.accepts_of_outcome {spec : Spec} (h : line.outcome tables = .accepted word note)
    (hmem : spec ∈ tables.specs) (hmnemonic : spec.mnemonic = line.mnemonic) :
    line.grammar.accepts spec.family = true := by
  obtain ⟨encoded, hencode, -, -⟩ := outcome_eq_accepted_iff.1 h
  obtain ⟨found, numbers, placement, -, hfound, hreplace, hplaces, -, -⟩ :=
    exists_places_of_encode hencode
  rw [Tables.byMnemonic_eq_some_iff.2 ⟨hmem, hmnemonic⟩, Option.some.injEq] at hfound
  subst hfound
  have hgrammar : numbers.grammar = line.grammar := (Operands.of_replace?_eq_some hreplace).1
  rw [← hgrammar]
  exact Operands.exists_places_iff.1 ⟨placement, hplaces⟩

theorem encode_ne_internal (tables : Tables) (line : Line) (what : String) :
    line.encode tables ≠ .error (.internal what) := by
  intro h
  have hencodes := encodes_encode tables line
  rw [h] at hencodes
  cases hencodes with
  | unknownMnemonic _ hresult | unknownRegisters _ hresult | formatMismatch _ hresult => simp at hresult
  | @placed spec numbers placement hspec hreplace hplaces hresult =>
    cases hread : spec.numberField.readOption placement.literal? with
    | error error =>
      rw [hread] at hresult
      cases hresult
      exact NumberField.readOption_ne_internal hread
    | ok number =>
      rw [hread] at hresult
      contradiction

end MipsWord
