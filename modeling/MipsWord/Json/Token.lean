import MipsWord.Json.Basic
import MipsWord.Numeral

namespace MipsWord.Json

inductive Token where
  | beginArray
  | endArray
  | beginObject
  | endObject
  | colon
  | comma
  | scalar (value : Json)
  deriving Repr

def joinUnits : List Nat → Option (List Char)
  | [] => some []
  | unit :: rest =>
    if 0xd800 ≤ unit ∧ unit < 0xdc00 then
      match rest with
      | low :: rest =>
        if 0xdc00 ≤ low ∧ low < 0xe000 then
          let c := Char.ofNat (0x10000 + (unit - 0xd800) * 0x400 + (low - 0xdc00))
          (joinUnits rest).map (c :: ·)
        else none
      | [] => none
    else if 0xdc00 ≤ unit ∧ unit < 0xe000 then none
    else (joinUnits rest).map (Char.ofNat unit :: ·)

def unescape? : Char → Option Char
  | '"' => some '"'
  | '\\' => some '\\'
  | '/' => some '/'
  | 'b' => some '\x08'
  | 'f' => some '\x0c'
  | 'n' => some '\n'
  | 'r' => some '\r'
  | 't' => some '\t'
  | _ => none

def hexUnit? (digits : List Char) : Option Nat :=
  if digits.all Base.hexadecimal.isDigit then some (Base.hexadecimal.toNat digits) else none

def dropDigits? (text : List Char) : Option (List Char) :=
  match text with
  | c :: rest => if c.isDigit then some (rest.dropWhile Char.isDigit) else none
  | [] => none

def dropWhole? : List Char → Option (List Char)
  | '0' :: rest => some rest
  | text => dropDigits? text

def dropPlaces? : List Char → Option (List Char)
  | '.' :: rest => dropDigits? rest
  | text => some text

def dropExponent? : List Char → Option (List Char)
  | e :: rest =>
    if e = 'e' ∨ e = 'E' then
      match rest with
      | sign :: digits => dropDigits? (if sign = '+' ∨ sign = '-' then digits else rest)
      | [] => none
    else some (e :: rest)
  | [] => some []

def isNumber (text : List Char) : Bool :=
  let unsigned := match text with
    | '-' :: rest => rest
    | text => text
  ((dropWhole? unsigned).bind dropPlaces?).bind dropExponent? = some []

def scalar? (run : List Char) : Option Token :=
  let spelling := String.ofList run
  if spelling = "null" then some (.scalar .null)
  else if spelling = "true" then some (.scalar (.bool true))
  else if spelling = "false" then some (.scalar (.bool false))
  else if isNumber run then some (.scalar (.number spelling))
  else none

inductive Mode where
  | between
  | run (read : List Char)
  | string (units : List Nat)

def isRunChar (c : Char) : Bool :=
  c.isAlphanum || c = '-' || c = '+' || c = '.'

def start? : Char → Option (List Token × Mode)
  | ' ' | '\t' | '\n' | '\r' => some ([], .between)
  | '[' => some ([.beginArray], .between)
  | ']' => some ([.endArray], .between)
  | '\x7b' => some ([.beginObject], .between)
  | '\x7d' => some ([.endObject], .between)
  | ':' => some ([.colon], .between)
  | ',' => some ([.comma], .between)
  | '"' => some ([], .string [])
  | c => if isRunChar c then some ([], .run [c]) else none

def tokensFrom? : Mode → List Char → Option (List Token)
  | .between, [] => some []
  | .between, c :: rest =>
    match start? c with
    | some (tokens, mode) => (tokensFrom? mode rest).map (tokens ++ ·)
    | none => none
  | .run read, [] => (scalar? read.reverse).map ([·])
  | .run read, c :: rest =>
    if isRunChar c then tokensFrom? (.run (c :: read)) rest
    else
      match scalar? read.reverse, start? c with
      | some token, some (tokens, mode) => (tokensFrom? mode rest).map (token :: tokens ++ ·)
      | _, _ => none
  | .string _, [] => none
  | .string units, '"' :: rest =>
    let text := (joinUnits units.reverse).map String.ofList
    (tokensFrom? .between rest).map (.scalar (.string text) :: ·)
  | .string units, '\\' :: 'u' :: a :: b :: c :: d :: rest =>
    match hexUnit? [a, b, c, d] with
    | some unit => tokensFrom? (.string (unit :: units)) rest
    | none => none
  | .string units, '\\' :: e :: rest =>
    match unescape? e with
    | some c => tokensFrom? (.string (c.toNat :: units)) rest
    | none => none
  | .string units, c :: rest =>
    if c.toNat < 0x20 ∨ c = '\\' then none
    else tokensFrom? (.string (c.toNat :: units)) rest

def tokens? (text : List Char) : Option (List Token) :=
  tokensFrom? .between text

end MipsWord.Json
