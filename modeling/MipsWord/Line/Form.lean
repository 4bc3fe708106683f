import MipsWord.Line.Basic
import MipsWord.Text.CharClass

/-!
This module contains the forms of a line as a relation between lines and the texts that spell them. It says
what may be written without saying how it is read.
-/

namespace MipsWord

open Text

def IsWord (text : List Char) : Prop :=
  text ≠ [] ∧ ∀ c ∈ text, isWordChar c = true

def IsBlanks (text : List Char) : Prop :=
  ∀ c ∈ text, isBlank c = true

inductive IsLiteral : List Char → Prop where
  | unsigned {digit : Char} {more : List Char} (hdigit : isDecimalDigit digit = true)
      (hmore : ∀ c ∈ more, isWordChar c = true) : IsLiteral (digit :: more)
  | negative {digit : Char} {more : List Char} (hdigit : isDecimalDigit digit = true)
      (hmore : ∀ c ∈ more, isWordChar c = true) : IsLiteral ('-' :: digit :: more)

inductive SpellsRegister : String → List Char → Prop where
  | intro {register : String} (hword : IsWord register.toList) :
      SpellsRegister register ('$' :: register.toList)

inductive IsComma : List Char → Prop where
  | intro {before after : List Char} (hbefore : IsBlanks before) (hafter : IsBlanks after) :
      IsComma (before ++ ',' :: after)

inductive SpellsOperands : Operands String → List Char → Prop where
  | threeRegister {a b c : String} {ta tb tc comma₁ comma₂ : List Char}
      (ha : SpellsRegister a ta) (hcomma₁ : IsComma comma₁) (hb : SpellsRegister b tb)
      (hcomma₂ : IsComma comma₂) (hc : SpellsRegister c tc) :
      SpellsOperands (.threeRegister a b c) (ta ++ comma₁ ++ tb ++ comma₂ ++ tc)
  | twoRegisterImmediate {a b literal : String} {ta tb comma₁ comma₂ : List Char}
      (ha : SpellsRegister a ta) (hcomma₁ : IsComma comma₁) (hb : SpellsRegister b tb)
      (hcomma₂ : IsComma comma₂) (hliteral : IsLiteral literal.toList) :
      SpellsOperands (.twoRegisterImmediate a b literal)
        (ta ++ comma₁ ++ tb ++ comma₂ ++ literal.toList)
  | loadStore {a b : String} {offset : Option String} {ta tb comma s₁ s₂ s₃ : List Char}
      (ha : SpellsRegister a ta) (hcomma : IsComma comma)
      (hoffset : ∀ literal ∈ offset, IsLiteral literal.toList) (hs₁ : IsBlanks s₁)
      (hs₂ : IsBlanks s₂) (hb : SpellsRegister b tb) (hs₃ : IsBlanks s₃) :
      SpellsOperands (.loadStore a offset b)
        (ta ++ comma ++ (offset.getD "").toList ++ s₁ ++ '(' :: s₂ ++ tb ++ s₃ ++ [')'])
  | jump {literal : String} (hliteral : IsLiteral literal.toList) :
      SpellsOperands (.jump literal) literal.toList
  | twoRegister {a b : String} {ta tb comma : List Char}
      (ha : SpellsRegister a ta) (hcomma : IsComma comma) (hb : SpellsRegister b tb) :
      SpellsOperands (.twoRegister a b) (ta ++ comma ++ tb)
  | oneRegister {a : String} {ta : List Char} (ha : SpellsRegister a ta) :
      SpellsOperands (.oneRegister a) ta

inductive Line.Spells : Line → List Char → Prop where
  | intro {line : Line} {gap operands : List Char} (hmnemonic : IsWord line.mnemonic.toList)
      (hgap : IsBlanks gap) (hne : gap ≠ []) (hoperands : SpellsOperands line.operands operands) :
      Line.Spells line (line.mnemonic.toList ++ gap ++ operands)

end MipsWord
