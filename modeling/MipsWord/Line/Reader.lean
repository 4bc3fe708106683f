import MipsWord.Line.Basic
import MipsWord.Text.LowerCase

/-!
This module contains the reading of lines of assembly text. Blanks can stand around commas and inside
parentheses, and at least one follows the mnemonic. Letters count in either case.

No line has two forms: what follows a register or a comma decides how the line goes on, because words,
blanks and punctuation have no character in common.
-/

namespace MipsWord.Line

open Text

def word? (text : List Char) : Option (String × List Char) :=
  match text.takeWhile isWordChar with
  | [] => none
  | word => some (String.ofList word, text.dropWhile isWordChar)

def register? : List Char → Option (String × List Char)
  | '$' :: rest => word? rest
  | _ => none

def literal? (text : List Char) : Option (String × List Char) :=
  let (sign, body) : List Char × List Char := match text with
    | '-' :: rest => (['-'], rest)
    | text => ([], text)
  match body.takeWhile isWordChar with
  | [] => none
  | digit :: more =>
    if isDecimalDigit digit then
      some (String.ofList (sign ++ digit :: more), body.dropWhile isWordChar)
    else none

def gap? : List Char → Option (List Char)
  | c :: rest => if isBlank c then some (trimStart rest) else none
  | [] => none

def comma? (text : List Char) : Option (List Char) :=
  match trimStart text with
  | ',' :: rest => some (trimStart rest)
  | _ => none

def base? (text : List Char) : Option String :=
  match trimStart text with
  | '(' :: rest =>
    match register? (trimStart rest) with
    | some (register, rest) => if trimStart rest = [')'] then some register else none
    | none => none
  | _ => none

def third? (a b : String) (text : List Char) : Option (Operands String) :=
  match register? text with
  | some (c, []) => some (.threeRegister a b c)
  | some _ => none
  | none =>
    match literal? text with
    | some (literal, []) => some (.twoRegisterImmediate a b literal)
    | _ => none

def second? (a : String) (text : List Char) : Option (Operands String) :=
  match register? text with
  | some (b, []) => some (.twoRegister a b)
  | some (b, rest) => (comma? rest).bind (third? a b)
  | none =>
    match literal? text with
    | some (offset, rest) => (base? rest).map (.loadStore a (some offset))
    | none => (base? text).map (.loadStore a none)

def operands? (text : List Char) : Option (Operands String) :=
  match register? text with
  | some (a, []) => some (.oneRegister a)
  | some (a, rest) => (comma? rest).bind (second? a)
  | none =>
    match literal? text with
    | some (literal, []) => some (.jump literal)
    | _ => none

def ofChars? (text : List Char) : Option Line :=
  match word? text with
  | some (mnemonic, rest) => ((gap? rest).bind operands?).map fun operands => { mnemonic, operands }
  | none => none

def normalize (text : String) : List Char :=
  lower (trim text.toList)

def read? (text : String) : Option Line :=
  ofChars? (normalize text)

end MipsWord.Line

namespace MipsWord

def grammarOf? (text : String) : Option Grammar :=
  (Line.read? text).map (·.grammar)

end MipsWord
