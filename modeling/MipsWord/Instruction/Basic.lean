import MipsWord.Family

namespace MipsWord

structure OperandSet where
  rs : Bool
  rt : Bool
  rd : Bool
  shamt : Bool
  immediate : Bool
  jumpAddress : Bool
  deriving Repr, DecidableEq

namespace OperandSet

def empty : OperandSet :=
  ⟨false, false, false, false, false, false⟩

def singleton (name : FieldName) : OperandSet where
  rs := name = .rs
  rt := name = .rt
  rd := name = .rd
  shamt := name = .shamt
  immediate := name = .immediate
  jumpAddress := name = .jumpAddress

def union (a b : OperandSet) : OperandSet where
  rs := a.rs || b.rs
  rt := a.rt || b.rt
  rd := a.rd || b.rd
  shamt := a.shamt || b.shamt
  immediate := a.immediate || b.immediate
  jumpAddress := a.jumpAddress || b.jumpAddress

def ofNames (names : List FieldName) : OperandSet :=
  names.foldl (fun set name => set.union (singleton name)) empty

def contains (set : OperandSet) : FieldName → Bool
  | .rs => set.rs
  | .rt => set.rt
  | .rd => set.rd
  | .shamt => set.shamt
  | .immediate => set.immediate
  | .jumpAddress => set.jumpAddress
  | .opcode | .funct | .unknown => false

def members (set : OperandSet) : List (Bool × String) :=
  [(set.rs, "RS"), (set.rt, "RT"), (set.rd, "RD"), (set.shamt, "SHAMT"),
   (set.immediate, "IMMEDIATE"), (set.jumpAddress, "JUMP_ADDRESS")]

def mask (set : OperandSet) : Nat :=
  set.members.foldr (fun (present, _) acc => 2 * acc + present.toNat) 0

def names (set : OperandSet) : List String :=
  (set.members.filter (·.1)).map (·.2)

theorem contains_union (a b : OperandSet) (name : FieldName) :
    (a.union b).contains name = (a.contains name || b.contains name) := by
  cases name <;> rfl

theorem contains_ofNames (names : List FieldName) (name : FieldName) :
    (ofNames names).contains name = names.any fun n => (singleton n).contains name := by
  suffices h : ∀ set : OperandSet,
      (names.foldl (fun set name => set.union (singleton name)) set).contains name
        = (set.contains name || names.any fun n => (singleton n).contains name) by
    rw [ofNames, h]
    cases name <;> simp [empty, contains]
  induction names with
  | nil => simp
  | cons n rest ih =>
    intro set
    rw [List.foldl_cons, ih, contains_union, List.any_cons, Bool.or_assoc]

end OperandSet

structure Part where
  text : String
  role : Option Role
  deriving Repr, DecidableEq

namespace Part

def token (text : String) (role : Role) : Part :=
  { text, role := some role }

def separator (text : String) : Part :=
  { text, role := none }

end Part

structure Instruction where
  format : Option Format
  fields : List Field
  spec : Option Spec
  deriving Repr, DecidableEq

namespace Instruction

def mnemonic? (instruction : Instruction) : Option String :=
  instruction.spec.map (·.mnemonic)

def family? (instruction : Instruction) : Option Family :=
  match instruction.format with
  | some _ => instruction.spec.map (·.family)
  | none => none

def roleOf (instruction : Instruction) (name : FieldName) : Role :=
  match instruction.spec with
  | some spec => spec.family.role name
  | none => if name = .opcode ∨ name = .funct then .instruction else .unused

def roles (instruction : Instruction) : List Role :=
  instruction.fields.map fun field => instruction.roleOf field.name

def field? (instruction : Instruction) (name : FieldName) : Option Field :=
  instruction.fields.find? (·.name = name)

def role? (instruction : Instruction) (name : FieldName) : Option Role :=
  (instruction.field? name).map fun field => instruction.roleOf field.name

def fieldWithRole? (instruction : Instruction) (role : Role) : Option Field :=
  instruction.fields.find? fun field => instruction.roleOf field.name = role

def usedOperands (instruction : Instruction) : OperandSet :=
  OperandSet.ofNames <|
    (instruction.fields.map (·.name)).filter fun name => instruction.roleOf name ≠ .unused

def bitLength (instruction : Instruction) : Nat :=
  instruction.fields.foldr (fun field sum => field.width + sum) 0

def rawBits (instruction : Instruction) : List Char :=
  instruction.fields.flatMap (·.rawBits.toList)

def isTruncated (instruction : Instruction) : Bool :=
  instruction.fields.any (·.isTruncated)

def operand? (instruction : Instruction) (family : Family) (name : FieldName) : Option Part :=
  (instruction.field? name).map fun field => .token field.display (family.role name)

def operands? (instruction : Instruction) (family : Family) : Option (List Part) :=
  match family with
  -- mn rt, immediate(rs)
  | .load | .store => do
    let register ← instruction.operand? family .rt
    let offset ← instruction.operand? family .immediate
    let base ← instruction.operand? family .rs
    return [register, .separator ", ", offset, .separator "(", base, .separator ")"]
  | _ => do
    let operands ← family.textOperands.mapM (instruction.operand? family)
    return operands.intersperse (.separator ", ")

def parts? (instruction : Instruction) : Option (List Part) := do
  let family ← instruction.family?
  let mnemonic ← instruction.mnemonic?
  let operands ← instruction.operands? family
  return .token mnemonic .instruction :: .separator " " :: operands

def text? (instruction : Instruction) : Option String :=
  instruction.parts?.map fun parts => String.ofList (parts.flatMap (·.text.toList))

def textRoles? (instruction : Instruction) : Option (List Role) :=
  instruction.parts?.map fun parts => parts.filterMap (·.role)

end Instruction
end MipsWord
