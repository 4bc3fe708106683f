import MipsWord.Field

namespace MipsWord

inductive NumberField where
  | signedImmediate
  | unsignedImmediate
  | shiftAmount
  | jumpAddress
  deriving Repr, DecidableEq

namespace NumberField

def label : NumberField → String
  | signedImmediate | unsignedImmediate => "immediate"
  | shiftAmount => "shift amount"
  | jumpAddress => "jump address"

def name : NumberField → FieldName
  | signedImmediate | unsignedImmediate => .immediate
  | shiftAmount => .shamt
  | jumpAddress => .jumpAddress

def width (field : NumberField) : Nat :=
  field.name.width

def least : NumberField → Int
  | signedImmediate => -Bits.capacity (FieldName.immediate.width - 1)
  | unsignedImmediate | shiftAmount | jumpAddress => 0

def greatest : NumberField → Int
  | signedImmediate => Bits.capacity (FieldName.immediate.width - 1) - 1
  | unsignedImmediate => Bits.capacity FieldName.immediate.width - 1
  | shiftAmount => Bits.capacity FieldName.shamt.width - 1
  | jumpAddress => Bits.capacity FieldName.jumpAddress.width - 1

end NumberField

inductive EncodeError where
  | unknownMnemonic (mnemonic : String)
  | unknownRegisters (names : List String)
  | formatMismatch (mnemonic : String)
  | notANumber (field : NumberField) (literal : String)
  | outOfRange (field : NumberField) (literal : String)
  | internal (what : String)
  deriving Repr, DecidableEq

def EncodeError.message : EncodeError → String
  | unknownMnemonic mnemonic => "unknown mnemonic " ++ mnemonic
  | unknownRegisters names =>
    "\n".intercalate (names.map fun name => "unknown register: $" ++ name)
  | formatMismatch mnemonic => "format is valid but not for " ++ mnemonic
  | notANumber field literal => field.label ++ " is not a number: " ++ literal
  | outOfRange field literal => field.label ++ " value is out of range: " ++ literal
  | internal what => "internal error: " ++ what

structure FieldNumber where
  value : Nat
  note : Option String
  deriving Repr, DecidableEq

namespace NumberField

def note? (field : NumberField) (text : String) (literal : Literal) : Option String :=
  match literal.rest with
  | [] => none
  | _ :: _ =>
    some (field.label ++ " \"" ++ text ++ "\" read as " ++ String.ofList literal.consumed)

def read (field : NumberField) (text : String) : Except EncodeError FieldNumber :=
  match Literal.read? text.toList with
  | none => .error (.notANumber field text)
  | some literal =>
    match literal.value? with
    | none => .error (.outOfRange field text)
    | some value =>
      if field.least ≤ value ∧ value ≤ field.greatest then
        .ok { value := (value % Bits.capacity field.width).toNat, note := field.note? text literal }
      else
        .error (.outOfRange field text)

end NumberField
end MipsWord
