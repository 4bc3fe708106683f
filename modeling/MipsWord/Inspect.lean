import MipsWord.Encode.Basic
import MipsWord.Instruction.Decode

namespace MipsWord

/--
A field with its role and its place in the word, from bit `start` up to but without bit `stop`. Bit 0 is the
leftmost.
-/
structure FieldReport where
  field : Field
  role : Role
  start : Nat
  stop : Nat
  deriving Repr, DecidableEq

structure Report where
  bits : String
  padding : String
  hex : String
  format : Option Format
  mnemonic : Option String
  fullName : Option String
  text : Option String
  destination : Option String
  parts : List Part
  fields : List FieldReport
  message : Option Diagnostic
  deriving Repr, DecidableEq

namespace Report

def place (role : FieldName → Role) (start : Nat) : List Field → List FieldReport
  | [] => []
  | field :: rest =>
    let stop := start + field.width
    { field, role := role field.name, start, stop } :: place role stop rest

def ofInstruction (instruction : Instruction) (message : Option Diagnostic) : Report where
  bits := String.ofList instruction.rawBits
  padding := String.ofList (Bits.zeroPadding instruction.rawBits)
  hex := String.ofList (Bits.toHex instruction.rawBits)
  format := instruction.format
  mnemonic := instruction.mnemonic?
  fullName := instruction.spec.map (·.fullName)
  text := instruction.text?
  destination := (instruction.fieldWithRole? .destination).map (·.display)
  parts := instruction.parts?.getD []
  fields := place instruction.roleOf 0 instruction.fields
  message

theorem map_field_place (role : FieldName → Role) (start : Nat) (fields : List Field) :
    (place role start fields).map (·.field) = fields := by
  induction fields generalizing start with
  | nil => rfl
  | cons field rest ih => simp [place, ih]

end Report

def Part.toJson (part : Part) : Json :=
  .ofMembers [
    ("text", .ofString part.text),
    ("role", .ofString? (part.role.map (·.key)))]

def FieldReport.toJson (row : FieldReport) : Json :=
  .ofMembers [
    ("name", .ofString row.field.name.label),
    ("role", .ofString row.role.key),
    ("start", .ofNat row.start),
    ("end", .ofNat row.stop),
    ("raw_bits", .ofString row.field.rawBits),
    ("value", .ofNat row.field.value),
    ("display", .ofString row.field.display)]

def Diagnostic.toJson (diagnostic : Diagnostic) : Json :=
  .ofMembers [
    ("text", .ofString diagnostic.text),
    ("severity", .ofString diagnostic.severity.label)]

def Report.toJson (report : Report) : Json :=
  .ofMembers [
    ("bits", .ofString report.bits),
    ("padding", .ofString report.padding),
    ("hex", .ofString report.hex),
    ("kind", .ofString (Format.label report.format)),
    ("mnemonic", .ofString? report.mnemonic),
    ("full_name", .ofString? report.fullName),
    ("asm", .ofString? report.text),
    ("destination", .ofString? report.destination),
    ("parts", .array (report.parts.map Part.toJson)),
    ("fields", .array (report.fields.map FieldReport.toJson)),
    ("message", (report.message.map Diagnostic.toJson).getD .null)]

namespace Report

def left (width : Nat) (text : String) : String :=
  String.ofList (text.toList.rightpad width ' ')

def right (width : Nat) (text : String) : String :=
  String.ofList (text.toList.leftpad width ' ')

def tableHead : String :=
  left 13 "field" ++ " " ++ left 7 "bits" ++ " " ++ left 13 "role" ++ " " ++ left 27 "raw" ++ " value"

def tableRow (row : FieldReport) : String :=
  left 13 row.field.name.label ++ " "
    ++ right 2 (Base.decimal.format row.start) ++ ".." ++ left 3 (Base.decimal.format row.stop) ++ " "
    ++ left 13 row.role.label ++ " "
    ++ left 27 row.field.rawBits ++ " "
    ++ row.field.display

def textLine (report : Report) : String :=
  match report.text, report.fullName with
  | some text, some fullName => "asm  : " ++ text ++ "    ; " ++ fullName
  | some text, none => "asm  : " ++ text
  | none, _ => "asm  : <no representation>"

def paddingLine? (report : Report) : Option String :=
  match report.padding.toList.length with
  | 0 => none
  | missing => some ("pad  : " ++ Base.decimal.format missing ++ " zero bits")

def lines (report : Report) : List String :=
  ["bits : " ++ String.ofList (Bits.grouped report.bits.toList)]
    ++ report.paddingLine?.toList
    ++ ["hex  : 0x" ++ report.hex, "type : " ++ Format.label report.format, report.textLine]
    ++ (report.destination.map ("dest : " ++ ·)).toList
    ++ tableHead :: report.fields.map tableRow
    ++ (report.message.map Diagnostic.display).toList

def toText (report : Report) : String :=
  String.join (report.lines.map (· ++ "\n"))

end Report

inductive WordFormat where
  | binary
  | hex
  deriving Repr, DecidableEq

namespace WordFormat

def label : WordFormat → String
  | binary => "binary"
  | hex => "hex"

def base : WordFormat → Base
  | binary => .binary
  | hex => .hexadecimal

def digits : WordFormat → Nat
  | binary => 32
  | hex => 8

def body : List Char → List Char
  | '0' :: 'x' :: rest => rest
  | text => text

/--
Reads the digits at the start of a text, up to a whole word. There is always a value; a remark says if
digits were left out or if something else than a digit stands among them.
-/
def read (format : WordFormat) (text : String) : Outcome String :=
  let body := body text.toList
  let digits := (body.takeWhile format.base.isDigit).take format.digits
  let value := String.ofList digits
  if format.digits < body.length ∧ digits.length = format.digits then
    .accepted value (some (format.label ++ " truncated to \"" ++ value ++ "\""))
  else if digits.length < body.length then
    .accepted value (some ("invalid " ++ format.label ++ " input"))
  else
    .accepted value none

def readBits (format : WordFormat) (text : String) : Outcome String :=
  match format with
  | binary => binary.read text
  | hex => (hex.read text).map fun digits => String.ofList (Bits.ofHex digits.toList)

end WordFormat

def inspectWord (tables : Tables) (settings : Settings) (format : WordFormat) (word : String) : Report :=
  let bits := format.readBits word
  Report.ofInstruction (decode tables settings (bits.value?.getD "")) bits.message?

def inspectLine (tables : Tables) (settings : Settings) (line : String) :
    Outcome String × Option Report :=
  let encoded := encode tables line
  (encoded, encoded.value?.map fun word =>
    Report.ofInstruction (decode tables settings word) encoded.message?)

end MipsWord
