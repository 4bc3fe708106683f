import MipsWord.Field
import MipsWord.Tables.Basic

namespace MipsWord

inductive Role where
  | instruction
  | destination
  | source1
  | source2
  | immediate
  | shiftAmount
  | jumpAddress
  | unused
  deriving Repr, DecidableEq

namespace Role

def label : Role → String
  | instruction => "instruction"
  | destination => "destination"
  | source1 => "source 1"
  | source2 => "source 2"
  | immediate => "immediate"
  | shiftAmount => "shift amount"
  | jumpAddress => "jump address"
  | unused => "unused"

def key : Role → String
  | instruction => "instruction"
  | destination => "destination"
  | source1 => "source1"
  | source2 => "source2"
  | immediate => "immediate"
  | shiftAmount => "shift_amount"
  | jumpAddress => "jump_address"
  | unused => "unused"

def all : List Role :=
  [instruction, destination, source1, source2, immediate, shiftAmount, jumpAddress, unused]

end Role

inductive Family where
  | threeRegister
  | jumpRegister
  | shift
  | multDiv
  | moveFrom
  | load
  | store
  | immediate
  | jump
  deriving Repr, DecidableEq

namespace Family

def shiftMnemonics : List String := ["sll", "srl", "sra"]

def multDivMnemonics : List String := ["mult", "multu", "div", "divu"]

def moveFromMnemonics : List String := ["mfhi", "mflo"]

def loadMnemonics : List String := ["lbu", "lhu", "ll", "lui", "lw", "lb"]

def storeMnemonics : List String := ["sb", "sc", "sh", "sw"]

def isRType : Family → Bool
  | threeRegister | jumpRegister | shift | multDiv | moveFrom => true
  | load | store | immediate | jump => false

def isLoadStore : Family → Bool
  | load | store => true
  | _ => false

def role : Family → FieldName → Role
  | _, .opcode | _, .funct => .instruction
  | threeRegister, .rd => .destination
  | threeRegister, .rs => .source1
  | threeRegister, .rt => .source2
  | jumpRegister, .rs => .source1
  | shift, .rd => .destination
  | shift, .rt => .source1
  | shift, .shamt => .shiftAmount
  | multDiv, .rs => .source1
  | multDiv, .rt => .source2
  | moveFrom, .rd => .destination
  | load, .rt => .destination
  | load, .rs => .source1
  | store, .rt => .source1
  | store, .rs => .source2
  | immediate, .rt => .source1
  | immediate, .rs => .source2
  | load, .immediate | store, .immediate | immediate, .immediate => .immediate
  | jump, .jumpAddress => .jumpAddress
  | _, _ => .unused

def textOperands : Family → List FieldName
  | threeRegister => [.rd, .rs, .rt]
  | jumpRegister => [.rs]
  | shift => [.rd, .rt, .shamt]
  | multDiv => [.rs, .rt]
  | moveFrom => [.rd]
  | load | store => [.rt, .immediate, .rs]
  | immediate => [.rt, .rs, .immediate]
  | jump => [.jumpAddress]

end Family

/--
The family of an instruction. The mnemonics of loads and stores count for all entries that are not of the R
format, of which the format decides otherwise.
-/
def Spec.family (spec : Spec) : Family :=
  match spec.format with
  | .r =>
    if spec.mnemonic = "jr" then .jumpRegister
    else if spec.mnemonic ∈ Family.shiftMnemonics then .shift
    else if spec.mnemonic ∈ Family.multDivMnemonics then .multDiv
    else if spec.mnemonic ∈ Family.moveFromMnemonics then .moveFrom
    else .threeRegister
  | .i =>
    if spec.mnemonic ∈ Family.loadMnemonics then .load
    else if spec.mnemonic ∈ Family.storeMnemonics then .store
    else .immediate
  | .j =>
    if spec.mnemonic ∈ Family.loadMnemonics then .load
    else if spec.mnemonic ∈ Family.storeMnemonics then .store
    else .jump

end MipsWord
