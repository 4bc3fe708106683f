import MipsWord.Json.Reader
import MipsWord.Tables.Basic

namespace MipsWord
namespace Tables

def builtinSpecs : List Spec :=
  [⟨"add", 0, some 32, .r, "Add"⟩,
   ⟨"addu", 0, some 33, .r, "Add Unsigned"⟩,
   ⟨"and", 0, some 36, .r, "And"⟩,
   ⟨"jr", 0, some 8, .r, "Jump Register"⟩,
   ⟨"nor", 0, some 39, .r, "Nor"⟩,
   ⟨"or", 0, some 37, .r, "Or"⟩,
   ⟨"slt", 0, some 42, .r, "Set Less Than"⟩,
   ⟨"sltu", 0, some 43, .r, "Set Less Than Unsigned"⟩,
   ⟨"sll", 0, some 0, .r, "Shift Left Logical"⟩,
   ⟨"srl", 0, some 2, .r, "Shift Right Logical"⟩,
   ⟨"sra", 0, some 3, .r, "Shift Right Arithmetic"⟩,
   ⟨"sub", 0, some 34, .r, "Subtract"⟩,
   ⟨"subu", 0, some 35, .r, "Subtract Unsigned"⟩,
   ⟨"div", 0, some 26, .r, "Divide"⟩,
   ⟨"divu", 0, some 27, .r, "Divide Unsigned"⟩,
   ⟨"mfhi", 0, some 16, .r, "Move From Hi"⟩,
   ⟨"mflo", 0, some 18, .r, "Move From Lo"⟩,
   ⟨"mult", 0, some 24, .r, "Multiply"⟩,
   ⟨"multu", 0, some 25, .r, "Multiply Unsigned"⟩,
   ⟨"addi", 8, none, .i, "Add Immediate"⟩,
   ⟨"addiu", 9, none, .i, "Add Immediate Unsigned"⟩,
   ⟨"andi", 12, none, .i, "And Immediate"⟩,
   ⟨"beq", 4, none, .i, "Branch On Equal"⟩,
   ⟨"bne", 5, none, .i, "Branch On Not Equal"⟩,
   ⟨"lbu", 36, none, .i, "Load Byte Unsigned"⟩,
   ⟨"lhu", 37, none, .i, "Load Halfword Unsigned"⟩,
   ⟨"ll", 48, none, .i, "Load Linked"⟩,
   ⟨"lui", 15, none, .i, "Load Upper Immediate"⟩,
   ⟨"lw", 35, none, .i, "Load Word"⟩,
   ⟨"lb", 32, none, .i, "Load Byte"⟩,
   ⟨"ori", 13, none, .i, "Or Immediate"⟩,
   ⟨"slti", 10, none, .i, "Set Less Than Immediate"⟩,
   ⟨"sltiu", 11, none, .i, "Set Less Than Immediate Unsigned"⟩,
   ⟨"sb", 40, none, .i, "Store Byte"⟩,
   ⟨"sc", 56, none, .i, "Store Conditional"⟩,
   ⟨"sh", 41, none, .i, "Store Halfword"⟩,
   ⟨"sw", 43, none, .i, "Store Word"⟩,
   ⟨"j", 2, none, .j, "Jump"⟩,
   ⟨"jal", 3, none, .j, "Jump And Link"⟩]

def builtinRegisters : List Register :=
  [⟨0, "zero"⟩, ⟨1, "at"⟩, ⟨2, "v0"⟩, ⟨3, "v1"⟩, ⟨4, "a0"⟩, ⟨5, "a1"⟩, ⟨6, "a2"⟩, ⟨7, "a3"⟩,
   ⟨8, "t0"⟩, ⟨9, "t1"⟩, ⟨10, "t2"⟩, ⟨11, "t3"⟩, ⟨12, "t4"⟩, ⟨13, "t5"⟩, ⟨14, "t6"⟩,
   ⟨15, "t7"⟩, ⟨16, "s0"⟩, ⟨17, "s1"⟩, ⟨18, "s2"⟩, ⟨19, "s3"⟩, ⟨20, "s4"⟩, ⟨21, "s5"⟩,
   ⟨22, "s6"⟩, ⟨23, "s7"⟩, ⟨24, "t8"⟩, ⟨25, "t9"⟩, ⟨26, "k0"⟩, ⟨27, "k1"⟩, ⟨28, "gp"⟩,
   ⟨29, "sp"⟩, ⟨30, "fp"⟩, ⟨31, "ra"⟩]

def builtin : Tables where
  specs := builtinSpecs
  registers := builtinRegisters
  consistent := firstConflict?_eq_none_iff.1 (by decide +kernel)

end Tables

def Format.words : List (String × Format) :=
  [("R", .r), ("I", .i), ("J", .j)]

def Spec.ofJson? (value : Json) : Option Spec :=
  match Json.record? ["mnemonic", "opcode", "functionCode", "type", "fullName"] value with
  | some [some mnemonic, some opcode, functionCode, some format, some fullName] => do
    some
      { mnemonic := ← mnemonic.string?
        opcode := ← opcode.byte?
        functionCode := ← (functionCode.getD .null).nullable? Json.byte?
        format := ← format.word? Format.words
        fullName := ← fullName.string? }
  | _ => none

def Register.ofJson? (value : Json) : Option Register :=
  match Json.record? ["number", "name"] value with
  | some [some number, some name] => do
    some { number := ← number.byte?, name := ← name.string? }
  | _ => none

namespace Tables

def readSpecs? (text : String) : Option (List Spec) :=
  (Json.read? text).bind (Json.list? Spec.ofJson?)

def readRegisters? (text : String) : Option (List Register) :=
  (Json.read? text).bind (Json.list? Register.ofJson?)

def load (specs registers : Option String) : Except TableError Tables :=
  let specs? := match specs with
    | some text => readSpecs? text
    | none => some builtinSpecs
  let registers? := match registers with
    | some text => readRegisters? text
    | none => some builtinRegisters
  match specs?, registers? with
  | some specs, some registers => ofLists specs registers
  | _, _ => .error .malformed

end Tables
end MipsWord
