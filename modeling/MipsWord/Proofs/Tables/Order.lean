import MipsWord.Inspect
import MipsWord.Proofs.Tables.Acceptance

namespace MipsWord

variable {specs specs' : List Spec} {registers registers' : List Register} {a b : Tables}

theorem Spec.Distinct.symm {s t : Spec} (h : Distinct s t) : Distinct t s := by
  obtain ⟨hmnemonic, hcode, hopcode⟩ := h
  refine ⟨hmnemonic.symm, ?_, ?_⟩
  · intro ht hs
    exact (hcode hs ht).symm
  · intro ht hs
    exact (hopcode hs ht).symm

theorem Register.Distinct.symm {r s : Register} (h : Distinct r s) : Distinct s r :=
  ⟨Ne.symm h.1, Ne.symm h.2⟩

theorem Consistent.perm (h : Consistent specs registers) (hspecs : specs.Perm specs')
    (hregisters : registers.Perm registers') : Consistent specs' registers' := by
  constructor
  · intro spec hspec
    exact h.wellFormed spec (hspecs.mem_iff.2 hspec)
  · exact (hspecs.pairwise_iff Spec.Distinct.symm).1 h.specs_distinct
  · intro register hregister
    exact h.number_le register (hregisters.mem_iff.2 hregister)
  · exact (hregisters.pairwise_iff Register.Distinct.symm).1 h.registers_distinct

namespace Tables

structure SameAnswers (a b : Tables) : Prop where
  byOpcode : a.byOpcode = b.byOpcode
  byFunctionCode : a.byFunctionCode = b.byFunctionCode
  byMnemonic : a.byMnemonic = b.byMnemonic
  registerName : a.registerName = b.registerName
  registerNumber : a.registerNumber = b.registerNumber

theorem sameAnswers_of_mem_iff (hspecs : ∀ spec, spec ∈ a.specs ↔ spec ∈ b.specs)
    (hregisters : ∀ register, register ∈ a.registers ↔ register ∈ b.registers) : a.SameAnswers b := by
  constructor
  · funext opcode
    ext spec
    rw [byOpcode_eq_some_iff, byOpcode_eq_some_iff, hspecs]
  · funext code
    ext spec
    rw [byFunctionCode_eq_some_iff, byFunctionCode_eq_some_iff, hspecs]
  · funext mnemonic
    ext spec
    rw [byMnemonic_eq_some_iff, byMnemonic_eq_some_iff, hspecs]
  · funext number
    ext name
    rw [registerName_eq_some_iff, registerName_eq_some_iff, hregisters]
  · funext name
    ext number
    rw [registerNumber_eq_some_iff, registerNumber_eq_some_iff, hregisters]

namespace SameAnswers

variable (h : a.SameAnswers b)

include h

theorem formatOf?_eq : a.formatOf? = b.formatOf? := by
  funext word
  unfold formatOf?
  rw [h.byOpcode]

theorem specOf?_eq : a.specOf? = b.specOf? := by
  funext word
  unfold specOf?
  rw [h.formatOf?_eq, h.byOpcode, h.byFunctionCode]

theorem ofField_eq : Reading.ofField a = Reading.ofField b := by
  funext settings unsigned name bits
  cases name with
  | opcode => simp only [Reading.ofField, Reading.opcode, h.byOpcode]
  | rs | rt | rd => simp only [Reading.ofField, Reading.register, h.registerName]
  | funct => simp only [Reading.ofField, Reading.functionCode, h.byFunctionCode]
  | shamt | immediate | jumpAddress | unknown => rfl

theorem decode_eq : decode a = decode b := by
  funext settings word
  unfold decode
  rw [h.formatOf?_eq, h.specOf?_eq, h.ofField_eq]

theorem resolve?_eq : a.resolve? = b.resolve? := by
  funext register
  unfold resolve?
  rw [h.registerNumber]

theorem lineEncode_eq (line : Line) : line.encode a = line.encode b := by
  unfold Line.encode
  rw [h.byMnemonic, h.resolve?_eq]

theorem encode_eq : encode a = encode b := by
  funext text
  unfold encode Line.outcome
  simp only [h.lineEncode_eq]

theorem inspectWord_eq : inspectWord a = inspectWord b := by
  funext settings format word
  unfold inspectWord
  rw [h.decode_eq]

theorem inspectLine_eq : inspectLine a = inspectLine b := by
  funext settings line
  unfold inspectLine
  rw [h.encode_eq, h.decode_eq]

end SameAnswers

theorem ofLists_perm (hspecs : specs.Perm specs') (hregisters : registers.Perm registers') :
    ((∃ tables, ofLists specs registers = .ok tables) ↔
        ∃ tables, ofLists specs' registers' = .ok tables) ∧
      ∀ a b, ofLists specs registers = .ok a → ofLists specs' registers' = .ok b →
        a.formatOf? = b.formatOf? ∧ decode a = decode b ∧ encode a = encode b ∧
        inspectWord a = inspectWord b ∧ inspectLine a = inspectLine b := by
  constructor
  · rw [exists_ofLists_eq_ok_iff, exists_ofLists_eq_ok_iff]
    constructor
    · intro hconsistent
      exact hconsistent.perm hspecs hregisters
    · intro hconsistent
      exact hconsistent.perm hspecs.symm hregisters.symm
  · intro a b ha hb
    obtain ⟨rfl, rfl⟩ := ofLists_eq_ok_iff.1 ha
    obtain ⟨rfl, rfl⟩ := ofLists_eq_ok_iff.1 hb
    have hsame : a.SameAnswers b :=
      sameAnswers_of_mem_iff (fun _ => hspecs.mem_iff) fun _ => hregisters.mem_iff
    exact ⟨hsame.formatOf?_eq, hsame.decode_eq, hsame.encode_eq, hsame.inspectWord_eq,
      hsame.inspectLine_eq⟩

theorem ofLists_perm_reverse :
    builtinSpecs.Perm builtinSpecs.reverse ∧ builtinRegisters.Perm builtinRegisters.reverse ∧
      ∃ tables, ofLists builtinSpecs.reverse builtinRegisters.reverse = .ok tables ∧
        tables.specs.head? = some ⟨"jal", 3, none, .j, "Jump And Link"⟩ ∧
        decode builtin = decode tables ∧ encode builtin = encode tables := by
  have hspecs : builtinSpecs.Perm builtinSpecs.reverse := (List.reverse_perm _).symm
  have hregisters : builtinRegisters.Perm builtinRegisters.reverse := (List.reverse_perm _).symm
  have hbuiltin : ofLists builtinSpecs builtinRegisters = .ok builtin :=
    ofLists_eq_ok_iff.2 ⟨rfl, rfl⟩
  obtain ⟨haccepted, hsame⟩ := ofLists_perm hspecs hregisters
  obtain ⟨tables, htables⟩ := haccepted.1 ⟨builtin, hbuiltin⟩
  obtain ⟨-, hdecode, hencode, -, -⟩ := hsame builtin tables hbuiltin htables
  refine ⟨hspecs, hregisters, tables, htables, ?_, hdecode, hencode⟩
  rw [(ofLists_eq_ok_iff.1 htables).1]
  decide

end Tables
end MipsWord
