import MipsWord.Diagnostic
import MipsWord.Encode.Number
import MipsWord.Line.Reader

/-!
This module contains the encoding of assembly text. A line is checked in this order: its mnemonic, its
registers, all of which are looked up, its form, its literal. All other checks concern the encoder itself.
-/

namespace MipsWord

inductive Slot where
  | register
  | literal
  deriving Repr, DecidableEq

inductive Operand where
  | register (number : Nat)
  | literal (text : String)
  deriving Repr, DecidableEq

def Grammar.slots : Grammar → List Slot
  | threeRegister => [.register, .register, .register]
  | twoRegisterImmediate => [.register, .register, .literal]
  | loadStore => [.register, .literal, .register]
  | jump => [.literal]
  | twoRegister => [.register, .register]
  | oneRegister => [.register]

def Operands.tokens : Operands String → List (Option String)
  | threeRegister a b c => [some a, some b, some c]
  | twoRegisterImmediate a b literal => [some a, some b, some literal]
  | loadStore a offset b => [some a, offset, some b]
  | jump literal => [some literal]
  | twoRegister a b => [some a, some b]
  | oneRegister a => [some a]

structure Filling where
  operands : List Operand
  unknown : List String
  deriving Repr, DecidableEq

namespace Filling

def addRegister (name : String) (number? : Option Nat) (filling : Filling) : Filling :=
  match number? with
  | some number => { filling with operands := .register number :: filling.operands }
  | none => { filling with unknown := name :: filling.unknown }

def addLiteral (text : String) (filling : Filling) : Filling :=
  { filling with operands := .literal text :: filling.operands }

end Filling

def fill (resolve? : String → Option Nat) :
    List Slot → List (Option String) → Except EncodeError Filling
  | [], _ => .ok { operands := [], unknown := [] }
  | .register :: slots, some name :: tokens =>
    (fill resolve? slots tokens).map (Filling.addRegister name (resolve? name))
  | .register :: _, _ => .error (.internal "register slot without a capture")
  | .literal :: slots, tokens =>
    (fill resolve? slots tokens.tail).map (Filling.addLiteral (tokens.head?.join.getD "0"))

structure Encoded where
  word : List Char
  note : Option String
  deriving Repr, DecidableEq

def Encoded.check (encoded : Encoded) : Except EncodeError Encoded :=
  if encoded.word.length = wordBits then .ok encoded
  else .error (.internal "encoded word is not 32 bits")

def pack (fields : List (FieldName × Nat)) : List Char :=
  fields.flatMap fun (name, number) => Bits.ofNat name.width number

namespace Operand

def number : Operand → Except EncodeError Nat
  | register number => .ok number
  | literal _ => .error (.internal "expected a register operand")

def text : Operand → Except EncodeError String
  | register _ => .error (.internal "expected a literal operand")
  | literal text => .ok text

end Operand

namespace Spec

def immediateField (spec : Spec) : NumberField :=
  if spec.hasUnsignedImmediate then .unsignedImmediate else .signedImmediate

def registerBits (spec : Spec) (rs rt rd shamt : Nat) : List Char :=
  pack [(.rs, rs), (.rt, rt), (.rd, rd), (.shamt, shamt), (.funct, spec.functionCode.getD 0)]

def buildThreeRegister (spec : Spec) : List Operand → Except EncodeError Encoded
  | [a, b, c] => do
    let rd ← a.number
    let rs ← b.number
    let rt ← c.number
    return { word := spec.registerBits rs rt rd 0, note := none }
  | _ => .error (.internal "wrong operand count")

def buildTwoRegister (spec : Spec) : List Operand → Except EncodeError Encoded
  | [a, b] => do
    let rs ← a.number
    let rt ← b.number
    return { word := spec.registerBits rs rt 0 0, note := none }
  | _ => .error (.internal "wrong operand count")

def buildOneRegister (spec : Spec) : List Operand → Except EncodeError Encoded
  | [a] => do
    let number ← a.number
    match spec.family with
    | .jumpRegister => return { word := spec.registerBits number 0 0 0, note := none }
    | .moveFrom => return { word := spec.registerBits 0 0 number 0, note := none }
    | _ => .error (.internal "one-register layout for another family")
  | _ => .error (.internal "wrong operand count")

def buildImmediate (spec : Spec) : List Operand → Except EncodeError Encoded
  | [a, b, c] => do
    let a ← a.number
    let b ← b.number
    let literal ← c.text
    if spec.family = .shift then
      let amount ← NumberField.shiftAmount.read literal
      return { word := spec.registerBits 0 b a amount.value, note := amount.note }
    else
      let immediate ← spec.immediateField.read literal
      return { word := pack [(.rs, b), (.rt, a), (.immediate, immediate.value)], note := immediate.note }
  | _ => .error (.internal "wrong operand count")

def buildLoadStore (spec : Spec) : List Operand → Except EncodeError Encoded
  | [a, offset, b] => spec.buildImmediate [a, b, offset]
  | _ => .error (.internal "wrong operand count")

def buildJump : List Operand → Except EncodeError Encoded
  | [.literal literal] => do
    let address ← NumberField.jumpAddress.read literal
    return { word := pack [(.jumpAddress, address.value)], note := address.note }
  | _ => .error (.internal "expected a single address")

def build (spec : Spec) : Grammar → List Operand → Except EncodeError Encoded
  | .threeRegister => spec.buildThreeRegister
  | .twoRegisterImmediate => spec.buildImmediate
  | .loadStore => spec.buildLoadStore
  | .jump => buildJump
  | .twoRegister => spec.buildTwoRegister
  | .oneRegister => spec.buildOneRegister

def withOpcode (spec : Spec) (built : Encoded) : Encoded :=
  { built with word := Bits.ofNat FieldName.opcode.width spec.opcode ++ built.word }

end Spec

def Tables.resolve? (tables : Tables) (register : String) : Option Nat :=
  let chars := register.toList
  if !chars.isEmpty && chars.all Base.decimal.isDigit then
    let number := Base.decimal.toNat chars
    if number < 32 then some number else none
  else
    tables.registerNumber register

def Line.encode (tables : Tables) (line : Line) : Except EncodeError Encoded :=
  match tables.byMnemonic line.mnemonic with
  | none => .error (.unknownMnemonic line.mnemonic)
  | some spec => do
    let filling ← fill tables.resolve? line.grammar.slots line.operands.tokens
    if filling.unknown ≠ [] then
      .error (.unknownRegisters filling.unknown)
    else if line.grammar.accepts spec.family then
      let built ← spec.build line.grammar filling.operands
      (spec.withOpcode built).check
    else
      .error (.formatMismatch spec.mnemonic)

def Line.outcome (tables : Tables) (line : Line) : Outcome String :=
  match line.encode tables with
  | .ok encoded => .accepted (String.ofList encoded.word) encoded.note
  | .error error => .rejected error.message

def encode (tables : Tables) (text : String) : Outcome String :=
  match Line.read? text with
  | none => .unrecognised
  | some line => line.outcome tables

end MipsWord
