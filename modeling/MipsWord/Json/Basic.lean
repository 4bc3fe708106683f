namespace MipsWord

/--
A JSON value as it is written: numbers keep their spelling, objects the order and the repetitions of their
members. A string is `none` if it has an escaped surrogate without its partner, as such a string is no text.
-/
inductive Json where
  | null
  | bool (value : Bool)
  | number (spelling : String)
  | string (text : Option String)
  | array (items : List Json)
  | object (members : List (Option String × Json))
  deriving Repr

namespace Json

def ofString (text : String) : Json :=
  .string (some text)

def ofNat (n : Nat) : Json :=
  .number (String.ofList (Nat.toDigits 10 n))

def ofString? : Option String → Json
  | some text => ofString text
  | none => .null

def ofMembers (members : List (String × Json)) : Json :=
  .object (members.map fun (key, value) => (some key, value))

def escape : Char → List Char
  | '"' => ['\\', '"']
  | '\\' => ['\\', '\\']
  | '\x08' => ['\\', 'b']
  | '\x0c' => ['\\', 'f']
  | '\n' => ['\\', 'n']
  | '\r' => ['\\', 'r']
  | '\t' => ['\\', 't']
  | c =>
    if c.toNat < 0x20 then "\\u".toList ++ (Nat.toDigits 16 c.toNat).leftpad 4 '0' else [c]

def quote : Option String → List Char
  | some text => '"' :: text.toList.flatMap escape ++ ['"']
  | none => "\"\\ud800\"".toList

def newLine (depth : Nat) : List Char :=
  '\n' :: List.replicate (2 * depth) ' '

mutual

def print (depth : Nat) : Json → List Char
  | .null => "null".toList
  | .bool true => "true".toList
  | .bool false => "false".toList
  | .number spelling => spelling.toList
  | .string text => quote text
  | .array [] => ['[', ']']
  | .array (item :: rest) =>
    '[' :: newLine (depth + 1) ++ print (depth + 1) item ++ printItems (depth + 1) rest
      ++ newLine depth ++ [']']
  | .object [] => ['\x7b', '\x7d']
  | .object ((key, value) :: rest) =>
    '\x7b' :: newLine (depth + 1) ++ quote key ++ [':', ' '] ++ print (depth + 1) value
      ++ printMembers (depth + 1) rest ++ newLine depth ++ ['\x7d']

def printItems (depth : Nat) : List Json → List Char
  | [] => []
  | item :: rest => ',' :: newLine depth ++ print depth item ++ printItems depth rest

def printMembers (depth : Nat) : List (Option String × Json) → List Char
  | [] => []
  | (key, value) :: rest =>
    ',' :: newLine depth ++ quote key ++ [':', ' '] ++ print depth value ++ printMembers depth rest

end

def pretty (value : Json) : String :=
  String.ofList (print 0 value)

end Json
end MipsWord
