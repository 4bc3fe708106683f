/-!
This module contains the reference tables and the lookups in them. That the tables are consistent is said
twice: as a property of the two lists, and as a scan for the first entry that breaks it.
-/

namespace MipsWord

inductive Format where
  | r
  | i
  | j
  deriving Repr, DecidableEq

def Format.letter : Format → String
  | r => "R"
  | i => "I"
  | j => "J"

def Format.label : Option Format → String
  | some format => format.letter
  | none => "Unknown"

structure Spec where
  mnemonic : String
  opcode : Nat
  functionCode : Option Nat
  format : Format
  fullName : String
  deriving Repr, DecidableEq

def Spec.hasUnsignedImmediate (spec : Spec) : Bool :=
  spec.mnemonic.toList.getLast? = some 'u'

structure Register where
  number : Nat
  name : String
  deriving Repr, DecidableEq

inductive TableError where
  | malformed
  | opcodeRange (mnemonic : String) (opcode : Nat)
  | functionCodeRange (mnemonic : String) (code : Nat)
  | malformedR (mnemonic : String)
  | reservedOpcode (mnemonic : String)
  | unexpectedFunctionCode (mnemonic : String)
  | duplicateOpcode (opcode : Nat) (first second : String)
  | duplicateFunctionCode (code : Nat) (first second : String)
  | duplicateMnemonic (mnemonic : String)
  | registerRange (name : String) (number : Nat)
  | duplicateRegisterNumber (number : Nat)
  | duplicateRegisterName (name : String)
  deriving Repr, DecidableEq

def TableError.message : TableError → String
  | malformed => "malformed table JSON"
  | opcodeRange mnemonic opcode =>
    mnemonic ++ ": opcode " ++ toString opcode ++ " does not fit in 6 bits"
  | functionCodeRange mnemonic code =>
    mnemonic ++ ": function code " ++ toString code ++ " does not fit in 6 bits"
  | malformedR mnemonic =>
    mnemonic ++ ": R-type entries need opcode 0 and a function code"
  | reservedOpcode mnemonic =>
    mnemonic ++ ": opcode 0 is reserved for R-type entries"
  | unexpectedFunctionCode mnemonic =>
    mnemonic ++ ": only R-type entries carry a function code"
  | duplicateOpcode opcode first second =>
    "opcode " ++ toString opcode ++ " is shared by " ++ first ++ " and " ++ second
  | duplicateFunctionCode code first second =>
    "function code " ++ toString code ++ " is shared by " ++ first ++ " and " ++ second
  | duplicateMnemonic mnemonic =>
    "mnemonic " ++ mnemonic ++ " is declared twice"
  | registerRange name number =>
    "register $" ++ name ++ ": number " ++ toString number ++ " does not fit in 5 bits"
  | duplicateRegisterNumber number =>
    "register $" ++ toString number ++ " is declared twice"
  | duplicateRegisterName name =>
    "register $" ++ name ++ " is declared twice"

/--
Scans a list from its start and returns what is wrong with the first entry that conflicts with those before
it, where `earlier` holds the entries that precede the list.
-/
def scan? {α ε : Type} (conflict? : List α → α → Option ε) (earlier : List α) : List α → Option ε
  | [] => none
  | x :: rest =>
    match conflict? earlier x with
    | some error => some error
    | none => scan? conflict? (earlier ++ [x]) rest

theorem scan?_eq_none_iff {α ε : Type} {conflict? : List α → α → Option ε} {P : α → Prop}
    {R : α → α → Prop}
    (hconflict : ∀ earlier x, conflict? earlier x = none ↔ P x ∧ ∀ y ∈ earlier, R y x)
    {earlier xs : List α} :
    scan? conflict? earlier xs = none ↔
      (∀ x ∈ xs, P x) ∧ xs.Pairwise R ∧ ∀ y ∈ earlier, ∀ x ∈ xs, R y x := by
  induction xs generalizing earlier with
  | nil => simp [scan?]
  | cons x rest ih =>
    unfold scan?
    split
    · next error h =>
      simp only [reduceCtorEq, false_iff]
      rintro ⟨hP, -, hR⟩
      have hnone : conflict? earlier x = none :=
        (hconflict earlier x).2 ⟨hP x (by simp), fun y hy => hR y hy x (by simp)⟩
      rw [h] at hnone
      cases hnone
    · next h =>
      obtain ⟨hP, hR⟩ := (hconflict earlier x).1 h
      rw [ih]
      simp only [List.mem_cons, List.mem_append, List.pairwise_cons, List.not_mem_nil, or_false]
      constructor
      · rintro ⟨hPs, hpair, hall⟩
        refine ⟨?_, ⟨fun t ht => hall x (.inr rfl) t ht, hpair⟩, ?_⟩
        · rintro y (rfl | hy)
          · exact hP
          · exact hPs y hy
        · rintro y hy t (rfl | ht)
          · exact hR y hy
          · exact hall y (.inl hy) t ht
      · rintro ⟨hPs, ⟨hhead, hpair⟩, hall⟩
        refine ⟨fun y hy => hPs y (.inr hy), hpair, ?_⟩
        rintro y (hy | rfl) t ht
        · exact hall y hy t (.inr ht)
        · exact hhead t ht

namespace Spec

def WellFormed (spec : Spec) : Prop :=
  spec.opcode ≤ 63 ∧
    if spec.format = .r then
      spec.opcode = 0 ∧ ∃ code ≤ 63, spec.functionCode = some code
    else
      spec.opcode ≠ 0 ∧ spec.functionCode = none

def Distinct (a b : Spec) : Prop :=
  a.mnemonic ≠ b.mnemonic ∧
    (a.format = .r → b.format = .r → a.functionCode ≠ b.functionCode) ∧
    (a.format ≠ .r → b.format ≠ .r → a.opcode ≠ b.opcode)

def fault? (spec : Spec) : Option TableError :=
  if spec.opcode > 63 then
    some (.opcodeRange spec.mnemonic spec.opcode)
  else
    match spec.format, spec.functionCode with
    | .r, some code =>
      if spec.opcode ≠ 0 then some (.malformedR spec.mnemonic)
      else if code > 63 then some (.functionCodeRange spec.mnemonic code)
      else none
    | .r, none => some (.malformedR spec.mnemonic)
    | _, some _ => some (.unexpectedFunctionCode spec.mnemonic)
    | _, none => if spec.opcode = 0 then some (.reservedOpcode spec.mnemonic) else none

def clash? (earlier spec : Spec) : Option TableError :=
  if spec.format = .r ∧ earlier.format = .r ∧ earlier.functionCode = spec.functionCode then
    some (.duplicateFunctionCode (spec.functionCode.getD 0) earlier.mnemonic spec.mnemonic)
  else if spec.format ≠ .r ∧ earlier.format ≠ .r ∧ earlier.opcode = spec.opcode then
    some (.duplicateOpcode spec.opcode earlier.mnemonic spec.mnemonic)
  else
    none

def conflict? (earlier : List Spec) (spec : Spec) : Option TableError :=
  match spec.fault? with
  | some error => some error
  | none =>
    if earlier.any (·.mnemonic = spec.mnemonic) then some (.duplicateMnemonic spec.mnemonic)
    else earlier.findSome? (clash? · spec)

theorem fault?_eq_none_iff {spec : Spec} : spec.fault? = none ↔ spec.WellFormed := by
  unfold fault? WellFormed
  split
  · simp; omega
  · next hop =>
    have hle : spec.opcode ≤ 63 := by omega
    split <;> rename_i hformat hcode <;> simp only [hformat, hcode, hle, true_and] <;>
      (try split) <;> simp_all

theorem clash?_eq_none_iff {earlier spec : Spec} :
    clash? earlier spec = none ↔
      (earlier.format = .r → spec.format = .r → earlier.functionCode ≠ spec.functionCode) ∧
      (earlier.format ≠ .r → spec.format ≠ .r → earlier.opcode ≠ spec.opcode) := by
  unfold clash?
  grind

theorem conflict?_eq_none_iff {earlier : List Spec} {spec : Spec} :
    conflict? earlier spec = none ↔ spec.WellFormed ∧ ∀ s ∈ earlier, Distinct s spec := by
  unfold conflict?
  rw [← fault?_eq_none_iff]
  cases hfault : spec.fault? with
  | some error => simp
  | none =>
    simp only [true_and]
    split
    · next h =>
      obtain ⟨s, hs, hmn⟩ := List.any_eq_true.1 h
      simp only [reduceCtorEq, false_iff]
      exact fun hall => (hall s hs).1 (by simpa using hmn)
    · next h =>
      simp only [List.findSome?_eq_none_iff, clash?_eq_none_iff, Distinct]
      simp only [List.any_eq_true, decide_eq_true_eq, not_exists, not_and] at h
      exact ⟨fun hall s hs => ⟨h s hs, hall s hs⟩, fun hall s hs => (hall s hs).2⟩

end Spec

namespace Register

def Distinct (a b : Register) : Prop :=
  a.number ≠ b.number ∧ a.name ≠ b.name

def conflict? (earlier : List Register) (register : Register) : Option TableError :=
  if register.number > 31 then
    some (.registerRange register.name register.number)
  else if earlier.any (·.number = register.number) then
    some (.duplicateRegisterNumber register.number)
  else if earlier.any (·.name = register.name) then
    some (.duplicateRegisterName register.name)
  else
    none

theorem conflict?_eq_none_iff {earlier : List Register} {register : Register} :
    conflict? earlier register = none ↔
      register.number ≤ 31 ∧ ∀ r ∈ earlier, Distinct r register := by
  unfold conflict? Distinct
  split
  · simp; omega
  · split
    · next h =>
      obtain ⟨r, hr, heq⟩ := List.any_eq_true.1 h
      simp only [reduceCtorEq, false_iff]
      exact fun hall => (hall.2 r hr).1 (by simpa using heq)
    · split
      · next h =>
        obtain ⟨r, hr, heq⟩ := List.any_eq_true.1 h
        simp only [reduceCtorEq, false_iff]
        exact fun hall => (hall.2 r hr).2 (by simpa using heq)
      · next hrange hnumber hname =>
        simp only [List.any_eq_true, decide_eq_true_eq, not_exists, not_and] at hnumber hname
        simp only [true_iff]
        exact ⟨by omega, fun r hr => ⟨hnumber r hr, hname r hr⟩⟩

end Register

structure Consistent (specs : List Spec) (registers : List Register) : Prop where
  wellFormed : ∀ s ∈ specs, s.WellFormed
  specs_distinct : specs.Pairwise Spec.Distinct
  number_le : ∀ r ∈ registers, r.number ≤ 31
  registers_distinct : registers.Pairwise Register.Distinct

def firstConflict? (specs : List Spec) (registers : List Register) : Option TableError :=
  match scan? Spec.conflict? [] specs with
  | some error => some error
  | none => scan? Register.conflict? [] registers

theorem firstConflict?_eq_none_iff {specs : List Spec} {registers : List Register} :
    firstConflict? specs registers = none ↔ Consistent specs registers := by
  have hspecs : scan? Spec.conflict? [] specs = none ↔
      (∀ s ∈ specs, s.WellFormed) ∧ specs.Pairwise Spec.Distinct := by
    rw [scan?_eq_none_iff (P := Spec.WellFormed) (R := Spec.Distinct)
      fun _ _ => Spec.conflict?_eq_none_iff]
    simp
  have hregs : scan? Register.conflict? [] registers = none ↔
      (∀ r ∈ registers, r.number ≤ 31) ∧ registers.Pairwise Register.Distinct := by
    rw [scan?_eq_none_iff (P := fun r => r.number ≤ 31) (R := Register.Distinct)
      fun _ _ => Register.conflict?_eq_none_iff]
    simp
  unfold firstConflict?
  split
  · next error h =>
    simp only [reduceCtorEq, false_iff]
    intro hc
    rw [hspecs.2 ⟨hc.wellFormed, hc.specs_distinct⟩] at h
    cases h
  · next h =>
    rw [hregs]
    obtain ⟨hwf, hdist⟩ := hspecs.1 h
    exact ⟨fun ⟨hle, hpair⟩ => ⟨hwf, hdist, hle, hpair⟩,
      fun hc => ⟨hc.number_le, hc.registers_distinct⟩⟩

structure Tables where
  specs : List Spec
  registers : List Register
  consistent : Consistent specs registers

namespace Tables

def ofLists (specs : List Spec) (registers : List Register) : Except TableError Tables :=
  match h : firstConflict? specs registers with
  | some error => .error error
  | none => .ok { specs, registers, consistent := firstConflict?_eq_none_iff.1 h }

def byOpcode (tables : Tables) (opcode : Nat) : Option Spec :=
  if opcode = 0 then none
  else tables.specs.find? fun spec => spec.format ≠ .r && spec.opcode = opcode

def byFunctionCode (tables : Tables) (code : Nat) : Option Spec :=
  tables.specs.find? (·.functionCode = some code)

def byMnemonic (tables : Tables) (mnemonic : String) : Option Spec :=
  tables.specs.find? (·.mnemonic = mnemonic)

def registerName (tables : Tables) (number : Nat) : Option String :=
  (tables.registers.find? (·.number = number)).map (·.name)

def registerNumber (tables : Tables) (name : String) : Option Nat :=
  (tables.registers.find? (·.name = name)).map (·.number)

end Tables
end MipsWord
