namespace MipsWord

inductive Base where
  | binary
  | decimal
  | hexadecimal
  deriving Repr, DecidableEq

namespace Base

def radix : Base → Nat
  | binary => 2
  | decimal => 10
  | hexadecimal => 16

def marker : Base → List Char
  | binary => ['0', 'b']
  | decimal => []
  | hexadecimal => ['0', 'x']

def digitValue? (c : Char) : Option Nat :=
  if '0' ≤ c ∧ c ≤ '9' then some (c.toNat - '0'.toNat)
  else if 'a' ≤ c ∧ c ≤ 'f' then some (c.toNat - 'a'.toNat + 10)
  else if 'A' ≤ c ∧ c ≤ 'F' then some (c.toNat - 'A'.toNat + 10)
  else none

def digit? (base : Base) (c : Char) : Option Nat :=
  (digitValue? c).filter (· < base.radix)

def isDigit (base : Base) (c : Char) : Bool :=
  (base.digit? c).isSome

def toNat (base : Base) (digits : List Char) : Nat :=
  digits.foldl (fun acc c => base.radix * acc + (base.digit? c).getD 0) 0

def format (base : Base) (n : Nat) : String :=
  String.ofList (base.marker ++ Nat.toDigits base.radix n)

def formatInt (base : Base) : Int → String
  | .ofNat n => base.format n
  | .negSucc n => String.ofList ('-' :: (base.format (n + 1)).toList)

end Base

def wordBits : Nat := 32

namespace Bits

def capacity (width : Nat) : Nat :=
  Nat.pow 2 width

def bit (c : Char) : Nat :=
  if c = '1' then 1 else 0

def clean (c : Char) : Char :=
  if c = '1' then '1' else '0'

def toNat (bits : List Char) : Nat :=
  bits.foldl (fun acc c => 2 * acc + bit c) 0

def value (bits : List Char) : Nat :=
  toNat bits % capacity wordBits

/--
The value of the bits as a two's complement number, whose first bit weighs `-2 ^ (n - 1)`. More bits than
a word holds have no sign.
-/
def signedValue (bits : List Char) : Int :=
  if bits.head? = some '1' ∧ bits.length ≤ wordBits then
    (value bits : Int) - capacity bits.length
  else
    value bits

def padTo (width : Nat) (bits : List Char) : List Char :=
  bits.rightpad width '0'

def ofNat (width n : Nat) : List Char :=
  (Nat.toDigits 2 n).leftpad width '0'

def zeroPadding (bits : List Char) : List Char :=
  List.replicate (wordBits - bits.length) '0'

/--
The word that a text stands for: its first 32 characters, each written as the bit that it stands for,
followed by zeros up to 32 characters.
-/
def toWord (bits : List Char) : List Char :=
  padTo wordBits ((bits.take wordBits).map clean)

theorem bit_le_one (c : Char) : bit c ≤ 1 := by
  unfold bit
  split <;> omega

theorem bit_clean (c : Char) : bit (clean c) = bit c := by
  unfold bit clean
  split <;> simp

theorem toNat_concat (bits : List Char) (c : Char) : toNat (bits ++ [c]) = 2 * toNat bits + bit c := by
  simp [toNat]

theorem length_padTo (width : Nat) (bits : List Char) :
    (padTo width bits).length = max width bits.length := by
  simp only [padTo, List.rightpad, List.length_append, List.length_replicate]
  omega

theorem padTo_of_le {width : Nat} {bits : List Char} (h : width ≤ bits.length) :
    padTo width bits = bits := by
  simp [padTo, List.rightpad, Nat.sub_eq_zero_of_le h]

theorem length_toWord (bits : List Char) : (toWord bits).length = wordBits := by
  simp only [toWord, length_padTo, List.length_map, List.length_take]
  omega

def ofHex (hex : List Char) : List Char :=
  hex.flatMap fun c => ofNat 4 ((Base.hexadecimal.digit? c).getD 0)

def nibbles : List Char → List (List Char)
  | a :: b :: c :: d :: rest => [a, b, c, d] :: nibbles rest
  | [] => []
  | short => [short]

def toHex (bits : List Char) : List Char :=
  (nibbles bits).map fun group => Nat.digitChar (toNat (padTo 4 group))

def grouped (bits : List Char) : List Char :=
  [' '].intercalate (nibbles bits)

end Bits

structure Literal where
  negative : Bool
  base : Base
  digits : List Char
  rest : List Char
  deriving Repr, DecidableEq

namespace Literal

def sign : List Char → Bool × List Char
  | '-' :: rest => (true, rest)
  | text => (false, text)

def baseOf : List Char → Base × List Char
  | '0' :: 'x' :: rest => (.hexadecimal, rest)
  | '0' :: 'b' :: rest => (.binary, rest)
  | text => (.decimal, text)

/--
Reads a literal from the start of a text. There is none if no digit follows the sign and the marker, even
where the marker's own zero could have been read as a number.
-/
def read? (text : List Char) : Option Literal :=
  let (negative, unsigned) := sign text
  let (base, body) := baseOf unsigned
  match body.takeWhile base.isDigit with
  | [] => none
  | digits => some { negative, base, digits, rest := body.dropWhile base.isDigit }

def consumed (literal : Literal) : List Char :=
  (if literal.negative then ['-'] else []) ++ literal.base.marker ++ literal.digits

def toInt (literal : Literal) : Int :=
  let magnitude : Int := literal.base.toNat literal.digits
  if literal.negative then -magnitude else magnitude

def value? (literal : Literal) : Option Int :=
  if literal.base.toNat literal.digits < Bits.capacity 63 then some literal.toInt else none

end Literal
end MipsWord
