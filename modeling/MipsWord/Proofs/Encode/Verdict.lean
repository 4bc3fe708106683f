import MipsWord.Proofs.Encode.Word

namespace MipsWord

variable {tables : Tables} {line : Line} {spec : Spec} {register message : String}
  {note : Option String}

def Tables.Knows (tables : Tables) (register : String) : Prop :=
  ∃ number, tables.Denotes register number

theorem Tables.isSome_resolve?_iff :
    (tables.resolve? register).isSome = true ↔ tables.Knows register := by
  rw [Option.isSome_iff_exists]
  exact exists_congr fun number => resolve?_eq_some_iff

instance : Decidable (tables.Knows register) :=
  decidable_of_iff ((tables.resolve? register).isSome = true) Tables.isSome_resolve?_iff

namespace Line

structure Checked (tables : Tables) (line : Line) (spec : Spec) : Prop where
  mem : spec ∈ tables.specs
  mnemonic : spec.mnemonic = line.mnemonic
  registers : ∀ register ∈ line.operands.registers, tables.Knows register
  form : line.grammar.accepts spec.family = true

inductive Fails (tables : Tables) (line : Line) : String → Prop where
  | unknownMnemonic (h : ∀ spec ∈ tables.specs, spec.mnemonic ≠ line.mnemonic) :
    Fails tables line ("unknown mnemonic " ++ line.mnemonic)
  | unknownRegisters {spec : Spec} (hmem : spec ∈ tables.specs)
      (hmnemonic : spec.mnemonic = line.mnemonic)
      (h : ∃ register ∈ line.operands.registers, ¬ tables.Knows register) :
    Fails tables line ("\n".intercalate
      ((line.operands.registers.filter fun register => ¬ tables.Knows register).map fun register =>
        "unknown register: $" ++ register))
  | formatMismatch {spec : Spec} (hmem : spec ∈ tables.specs)
      (hmnemonic : spec.mnemonic = line.mnemonic)
      (hregisters : ∀ register ∈ line.operands.registers, tables.Knows register)
      (h : line.grammar.accepts spec.family = false) :
    Fails tables line ("format is valid but not for " ++ line.mnemonic)
  | notANumber {spec : Spec} {literal : String} (hchecked : line.Checked tables spec)
      (hliteral : line.operands.literal? = some literal)
      (h : ∀ number : Literal, ¬ number.Reads literal.toList) :
    Fails tables line (spec.numberField.label ++ " is not a number: " ++ literal)
  | outOfRange {spec : Spec} {literal : String} {number : Literal}
      (hchecked : line.Checked tables spec) (hliteral : line.operands.literal? = some literal)
      (hreads : number.Reads literal.toList) (h : ¬ spec.numberField.Fits number.toInt) :
    Fails tables line (spec.numberField.label ++ " value is out of range: " ++ literal)

inductive Succeeds (tables : Tables) (line : Line) : Option String → Prop where
  | noLiteral {spec : Spec} (hchecked : line.Checked tables spec)
      (hliteral : line.operands.literal? = none) :
    Succeeds tables line none
  | whole {spec : Spec} {literal : String} {number : Literal} (hchecked : line.Checked tables spec)
      (hliteral : line.operands.literal? = some literal) (hreads : number.Reads literal.toList)
      (hfits : spec.numberField.Fits number.toInt) (hrest : number.rest = []) :
    Succeeds tables line none
  | part {spec : Spec} {literal : String} {number : Literal} (hchecked : line.Checked tables spec)
      (hliteral : line.operands.literal? = some literal) (hreads : number.Reads literal.toList)
      (hfits : spec.numberField.Fits number.toInt) (hrest : number.rest ≠ []) :
    Succeeds tables line (some (spec.numberField.label ++ " \"" ++ literal ++ "\" read as " ++
      String.ofList number.consumed))

theorem exists_numbers {operands : Operands String}
    (h : ∀ register ∈ operands.registers, tables.Knows register) :
    ∃ numbers, operands.replace? tables.resolve? = some numbers := by
  rw [← Option.isSome_iff_exists, ← Option.ne_none_iff_isSome, Ne, Operands.replace?_eq_none_iff]
  rintro ⟨register, hmem, hnone⟩
  have hknows := Tables.isSome_resolve?_iff.2 (h register hmem)
  rw [hnone] at hknows
  contradiction

theorem Checked.encode_eq (h : line.Checked tables spec) :
    ∃ word : FieldNumber → List Char,
      line.encode tables = (spec.numberField.readOption line.operands.literal?).map fun number =>
        { word := word number, note := number.note } := by
  have hspec := Tables.byMnemonic_eq_some_iff.2 ⟨h.mem, h.mnemonic⟩
  obtain ⟨numbers, hreplace⟩ := exists_numbers h.registers
  obtain ⟨hgrammar, hliteral, -⟩ := Operands.of_replace?_eq_some hreplace
  have haccepts : numbers.grammar.accepts spec.family = true := by
    rw [hgrammar]
    exact h.form
  obtain ⟨placement, hplaces⟩ := Operands.exists_places_iff.2 haccepts
  refine ⟨fun number => (spec.word placement number).word, ?_⟩
  rw [encode_of_places hspec hreplace hplaces, hplaces.readOption_eq, hliteral]
  rfl

theorem Checked.outcome_of_error {error : EncodeError} (h : line.Checked tables spec)
    (hread : spec.numberField.readOption line.operands.literal? = .error error) :
    line.outcome tables = .rejected error.message := by
  obtain ⟨word, hencode⟩ := h.encode_eq
  rw [hread] at hencode
  unfold outcome
  rw [hencode]
  rfl

theorem Checked.outcome_of_ok {value : Nat} (h : line.Checked tables spec)
    (hread : spec.numberField.readOption line.operands.literal? = .ok { value, note }) :
    ∃ word, line.outcome tables = .accepted word note := by
  obtain ⟨word, hencode⟩ := h.encode_eq
  rw [hread] at hencode
  unfold outcome
  rw [hencode]
  exact ⟨_, rfl⟩

theorem Fails.outcome (h : line.Fails tables message) : line.outcome tables = .rejected message := by
  cases h with
  | unknownMnemonic h =>
    unfold Line.outcome
    rw [encode_of_byMnemonic_eq_none (Tables.byMnemonic_eq_none_iff.2 h)]
    rfl
  | unknownRegisters hmem hmnemonic h =>
    have hnone : line.operands.replace? tables.resolve? = none := by
      obtain ⟨register, hregister, hunknown⟩ := h
      apply Operands.replace?_eq_none_iff.2 ⟨register, hregister, _⟩
      rwa [← Tables.isSome_resolve?_iff, Option.not_isSome_iff_eq_none] at hunknown
    -- The message names the registers that do not resolve, which are those that stand for no number.
    have hfilter : (line.operands.registers.filter fun register => (tables.resolve? register).isNone)
        = line.operands.registers.filter fun register => ¬ tables.Knows register := by
      apply List.filter_congr
      intro register _
      rw [Bool.eq_iff_iff, decide_eq_true_iff, ← Tables.isSome_resolve?_iff]
      simp
    unfold Line.outcome
    rw [encode_of_replace?_eq_none (Tables.byMnemonic_eq_some_iff.2 ⟨hmem, hmnemonic⟩) hnone, hfilter]
    rfl
  | formatMismatch hmem hmnemonic hregisters h =>
    obtain ⟨numbers, hreplace⟩ := exists_numbers hregisters
    have hspec := Tables.byMnemonic_eq_some_iff.2 ⟨hmem, hmnemonic⟩
    unfold Line.outcome
    rw [encode_of_accepts_eq_false hspec hreplace h, ← hmnemonic]
    rfl
  | @notANumber spec literal hchecked hliteral h =>
    have hread : spec.numberField.readOption line.operands.literal?
        = .error (.notANumber spec.numberField literal) := by
      rw [hliteral]
      exact NumberField.read_eq_notANumber h
    exact hchecked.outcome_of_error hread
  | @outOfRange spec literal number hchecked hliteral hreads h =>
    have hread : spec.numberField.readOption line.operands.literal?
        = .error (.outOfRange spec.numberField literal) := by
      rw [hliteral]
      exact NumberField.read_eq_outOfRange hreads h
    exact hchecked.outcome_of_error hread

theorem Succeeds.outcome (h : line.Succeeds tables note) :
    ∃ word, line.outcome tables = .accepted word note := by
  cases h with
  | noLiteral hchecked hliteral =>
    apply hchecked.outcome_of_ok
    rw [hliteral]
    rfl
  | whole hchecked hliteral hreads hfits hrest =>
    rw [← NumberField.note?_of_nil hrest]
    apply hchecked.outcome_of_ok
    rw [hliteral]
    exact NumberField.read_eq_ok hreads hfits
  | part hchecked hliteral hreads hfits hrest =>
    rw [← NumberField.note?_of_ne_nil hrest]
    apply hchecked.outcome_of_ok
    rw [hliteral]
    exact NumberField.read_eq_ok hreads hfits

theorem Checked.fails_or_succeeds (h : line.Checked tables spec) :
    (∃ message, line.Fails tables message) ∨ ∃ note, line.Succeeds tables note := by
  cases hliteral : line.operands.literal? with
  | none => exact .inr ⟨_, .noLiteral h hliteral⟩
  | some literal =>
    by_cases hreads : ∃ number : Literal, number.Reads literal.toList
    · obtain ⟨number, hnumber⟩ := hreads
      by_cases hfits : spec.numberField.Fits number.toInt
      · by_cases hrest : number.rest = []
        · exact .inr ⟨_, .whole h hliteral hnumber hfits hrest⟩
        · exact .inr ⟨_, .part h hliteral hnumber hfits hrest⟩
      · exact .inl ⟨_, .outOfRange h hliteral hnumber hfits⟩
    · exact .inl ⟨_, .notANumber h hliteral (not_exists.1 hreads)⟩

theorem fails_or_succeeds (tables : Tables) (line : Line) :
    (∃ message, line.Fails tables message) ∨ ∃ note, line.Succeeds tables note := by
  by_cases hspec : ∃ spec ∈ tables.specs, spec.mnemonic = line.mnemonic
  · obtain ⟨spec, hmem, hmnemonic⟩ := hspec
    by_cases hregisters : ∃ register ∈ line.operands.registers, ¬ tables.Knows register
    · exact .inl ⟨_, .unknownRegisters hmem hmnemonic hregisters⟩
    · have hknown : ∀ register ∈ line.operands.registers, tables.Knows register := by
        intro register hregister
        by_contra hunknown
        exact hregisters ⟨register, hregister, hunknown⟩
      cases hform : line.grammar.accepts spec.family with
      | true => exact Checked.fails_or_succeeds ⟨hmem, hmnemonic, hknown, hform⟩
      | false => exact .inl ⟨_, .formatMismatch hmem hmnemonic hknown hform⟩
  · refine .inl ⟨_, .unknownMnemonic ?_⟩
    intro spec hmem hmnemonic
    exact hspec ⟨spec, hmem, hmnemonic⟩

theorem outcome_eq_rejected_iff :
    line.outcome tables = .rejected message ↔ line.Fails tables message := by
  constructor
  · intro h
    obtain ⟨found, hfails⟩ | ⟨note, hsucceeds⟩ := fails_or_succeeds tables line
    · have houtcome := hfails.outcome
      rw [h, Outcome.rejected.injEq] at houtcome
      rwa [houtcome]
    · obtain ⟨word, houtcome⟩ := hsucceeds.outcome
      rw [h] at houtcome
      contradiction
  · exact Fails.outcome

theorem exists_outcome_eq_accepted_iff :
    (∃ word, line.outcome tables = .accepted word note) ↔ line.Succeeds tables note := by
  constructor
  · rintro ⟨word, h⟩
    obtain ⟨message, hfails⟩ | ⟨found, hsucceeds⟩ := fails_or_succeeds tables line
    · rw [hfails.outcome] at h
      contradiction
    · obtain ⟨other, houtcome⟩ := hsucceeds.outcome
      rw [h, Outcome.accepted.injEq] at houtcome
      rwa [houtcome.2]
  · exact Succeeds.outcome

end Line

theorem encode_verdict (tables : Tables) (text : String) :
    ((encode tables text).value? = none ∧ (encode tables text).message? = none ↔
        ∀ line, ¬ Line.Spells line (Line.normalize text)) ∧
      ∀ line, Line.Spells line (Line.normalize text) →
        (∀ message, encode tables text = .rejected message ↔ line.Fails tables message) ∧
        (∀ note, (∃ word, encode tables text = .accepted word note) ↔ line.Succeeds tables note) ∧
        (∀ word note, encode tables text = .accepted word note → word.toList.length = 32) ∧
        ∀ what, line.encode tables ≠ .error (.internal what) := by
  constructor
  · constructor
    · rintro ⟨hvalue, hmessage⟩ line hspells
      rw [encode_of_spells hspells] at hvalue hmessage
      obtain ⟨message, hfails⟩ | ⟨note, hsucceeds⟩ := Line.fails_or_succeeds tables line
      · rw [hfails.outcome] at hmessage
        contradiction
      · obtain ⟨word, houtcome⟩ := hsucceeds.outcome
        rw [houtcome] at hvalue
        contradiction
    · intro h
      rw [encode_eq_unrecognised h]
      exact ⟨rfl, rfl⟩
  · intro line hspells
    rw [encode_of_spells hspells]
    refine ⟨?_, ?_, ?_, encode_ne_internal tables line⟩
    · intro message
      exact Line.outcome_eq_rejected_iff
    · intro note
      exact Line.exists_outcome_eq_accepted_iff
    · intro word note h
      obtain ⟨-, -, -, hlength, -⟩ := Line.assembles_of_outcome h
      exact hlength

theorem encode_verdict_registers :
    Line.Spells ⟨"add", .threeRegister "foo" "t1" "32"⟩ (Line.normalize "add $foo, $t1, $32") ∧
      Line.Fails Tables.builtin ⟨"add", .threeRegister "foo" "t1" "32"⟩
        "unknown register: $foo\nunknown register: $32" := by
  have hspells :
      Line.Spells ⟨"add", .threeRegister "foo" "t1" "32"⟩ (Line.normalize "add $foo, $t1, $32") := by
    rw [← Line.ofChars?_eq_some_iff]
    decide +kernel
  obtain ⟨hrejected, -, -⟩ := (encode_verdict Tables.builtin "add $foo, $t1, $32").2 _ hspells
  refine ⟨hspells, (hrejected _).1 ?_⟩
  decide +kernel

end MipsWord
