import MipsWord.Family

namespace MipsWord

inductive Grammar where
  | threeRegister
  | twoRegisterImmediate
  | loadStore
  | jump
  | twoRegister
  | oneRegister
  deriving Repr, DecidableEq

namespace Grammar

def all : List Grammar :=
  [threeRegister, twoRegisterImmediate, loadStore, jump, twoRegister, oneRegister]

/--
Whether the instructions of a family can be written in the form. All R instructions but shifts can be given
three registers, also those that use fewer.
-/
def accepts : Grammar → Family → Bool
  | threeRegister, family => family.isRType && family ≠ .shift
  | twoRegisterImmediate, family => family = .immediate || family = .shift
  | loadStore, family => family.isLoadStore
  | jump, family => family = .jump
  | twoRegister, family => family = .multDiv
  | oneRegister, family => family = .jumpRegister || family = .moveFrom

end Grammar

inductive Operands (ρ : Type) where
  | threeRegister (a b c : ρ)
  | twoRegisterImmediate (a b : ρ) (literal : String)
  | loadStore (a : ρ) (offset : Option String) (b : ρ)
  | jump (literal : String)
  | twoRegister (a b : ρ)
  | oneRegister (a : ρ)
  deriving Repr, DecidableEq

namespace Operands

variable {ρ : Type}

def grammar : Operands ρ → Grammar
  | threeRegister .. => .threeRegister
  | twoRegisterImmediate .. => .twoRegisterImmediate
  | loadStore .. => .loadStore
  | jump .. => .jump
  | twoRegister .. => .twoRegister
  | oneRegister .. => .oneRegister

def registers : Operands ρ → List ρ
  | threeRegister a b c => [a, b, c]
  | twoRegisterImmediate a b _ => [a, b]
  | loadStore a _ b => [a, b]
  | jump _ => []
  | twoRegister a b => [a, b]
  | oneRegister a => [a]

def literal? : Operands ρ → Option String
  | twoRegisterImmediate _ _ literal => some literal
  | loadStore _ offset _ => offset
  | jump literal => some literal
  | threeRegister .. | twoRegister .. | oneRegister .. => none

end Operands

structure Line where
  mnemonic : String
  operands : Operands String
  deriving Repr, DecidableEq

def Line.grammar (line : Line) : Grammar :=
  line.operands.grammar

end MipsWord
