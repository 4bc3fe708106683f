import MipsWord.Instruction.Basic
import MipsWord.Settings

namespace MipsWord
namespace Reading

def opcode (tables : Tables) : Interpreter := fun bits =>
  match Bits.value bits with
  | 0 => some "R"
  | opcode => (tables.byOpcode opcode).map (·.mnemonic)

def functionCode (tables : Tables) : Interpreter := fun bits =>
  (tables.byFunctionCode (Bits.value bits)).map (·.mnemonic)

def register (tables : Tables) (mode : RegisterMode) : Interpreter := fun bits =>
  let number := Bits.value bits
  match mode with
  | .numbers => some ("$" ++ Base.decimal.format number)
  | .names => some ("$" ++ (tables.registerName number).getD "unknown")

def shiftAmount : Interpreter := fun bits =>
  some (Base.decimal.format (Bits.value bits))

def signedImmediate (base : Base) : Interpreter := fun bits =>
  some (base.formatInt (Bits.signedValue bits))

def unsignedImmediate (base : Base) : Interpreter := fun bits =>
  some (base.format (Bits.value bits))

def jumpAddress (base : Base) : Interpreter := fun bits =>
  some (base.format (Bits.value bits))

def unknown : Interpreter := fun bits =>
  some (String.ofList bits)

def ofField (tables : Tables) (settings : Settings) (unsigned : Bool) : FieldName → Interpreter
  | .opcode => opcode tables
  | .rs | .rt | .rd => register tables settings.registerMode
  | .shamt => shiftAmount
  | .funct => functionCode tables
  | .immediate =>
    if unsigned then unsignedImmediate settings.immediateFormat
    else signedImmediate settings.immediateFormat
  | .jumpAddress => jumpAddress settings.immediateFormat
  | .unknown => unknown

end Reading

def layout : Option Format → List FieldName
  | some .r => [.opcode, .rs, .rt, .rd, .shamt, .funct]
  | some .i => [.opcode, .rs, .rt, .immediate]
  | some .j => [.opcode, .jumpAddress]
  | none => [.opcode, .unknown]

def functOffset : Nat := 26

theorem layout_width (format : Option Format) :
    (layout format).foldr (fun name sum => name.width + sum) 0 = wordBits := by
  match format with
  | some .r | some .i | some .j | none => rfl

namespace Tables

def formatOf? (tables : Tables) (word : List Char) : Option Format :=
  if word.length < FieldName.opcode.width then none
  else
    match Bits.value (word.take FieldName.opcode.width) with
    | 0 => some .r
    | opcode => (tables.byOpcode opcode).map (·.format)

def specOf? (tables : Tables) (word : List Char) : Option Spec :=
  match tables.formatOf? word with
  | some .r =>
    let funct := (word.drop functOffset).take FieldName.funct.width
    tables.byFunctionCode (Bits.value (Bits.padTo FieldName.funct.width funct))
  | some .i | some .j => tables.byOpcode (Bits.value (word.take FieldName.opcode.width))
  | none => none

end Tables

/--
Decodes a word. Every text is a word: missing bits count as zeros, as do characters that are not bits, and
characters after the 32nd are left out.
-/
def decode (tables : Tables) (settings : Settings) (word : String) : Instruction :=
  let bits := word.toList
  let format := tables.formatOf? bits
  let spec := tables.specOf? bits
  let unsigned := spec.any (·.hasUnsignedImmediate)
  { format
    fields := (Cursor.mk bits).fields (Reading.ofField tables settings unsigned) (layout format)
    spec }

end MipsWord
