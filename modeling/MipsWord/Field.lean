import MipsWord.Numeral

namespace MipsWord

inductive FieldName where
  | opcode
  | rs
  | rt
  | rd
  | shamt
  | funct
  | immediate
  | jumpAddress
  | unknown
  deriving Repr, DecidableEq

namespace FieldName

def width : FieldName → Nat
  | opcode | funct => 6
  | rs | rt | rd | shamt => 5
  | immediate => 16
  | jumpAddress | unknown => 26

def label : FieldName → String
  | opcode => "opcode"
  | rs => "rs"
  | rt => "rt"
  | rd => "rd"
  | shamt => "shamt"
  | funct => "funct"
  | immediate => "immediate"
  | jumpAddress => "jump_address"
  | unknown => "unknown"

def all : List FieldName :=
  [opcode, rs, rt, rd, shamt, funct, immediate, jumpAddress, unknown]

end FieldName

abbrev Interpreter := List Char → Option String

structure Field where
  name : FieldName
  rawBits : String
  value : Nat
  display : String
  deriving Repr, DecidableEq

namespace Field

/--
The field with the given bits. Missing bits are read as zeros, both for its value and for its display, which
is `unknown` if the bits stand for nothing.
-/
def ofBits (name : FieldName) (raw : List Char) (interpret : Interpreter) : Field :=
  let padded := Bits.padTo name.width raw
  { name
    rawBits := String.ofList raw
    value := Bits.value padded
    display := (interpret padded).getD "unknown" }

def width (field : Field) : Nat :=
  field.name.width

def isTruncated (field : Field) : Bool :=
  field.rawBits.toList.length < field.width

end Field

structure Cursor where
  rest : List Char
  deriving Repr, DecidableEq

namespace Cursor

def take (cursor : Cursor) (n : Nat) : List Char × Cursor :=
  (cursor.rest.take n, { rest := cursor.rest.drop n })

def field (cursor : Cursor) (name : FieldName) (interpret : Interpreter) : Field × Cursor :=
  let (raw, cursor) := cursor.take name.width
  (Field.ofBits name raw interpret, cursor)

def fields (cursor : Cursor) (interpret : FieldName → Interpreter) : List FieldName → List Field
  | [] => []
  | name :: layout =>
    let (field, cursor) := cursor.field name (interpret name)
    field :: cursor.fields interpret layout

end Cursor
end MipsWord
