import MipsWord.Json.Token

namespace MipsWord.Json

inductive Frame where
  | array (items : List Json)
  | object (members : List (Option String × Json)) (key : Option String)

inductive State where
  | value (stack : List Frame)
  | firstItem (stack : List Frame)
  | firstKey (stack : List Frame)
  | key (stack : List Frame) (members : List (Option String × Json))
  | colon (stack : List Frame) (members : List (Option String × Json)) (key : Option String)
  | after (stack : List Frame) (value : Json)

namespace State

def startValue? (stack : List Frame) : Token → Option State
  | .scalar item => some (.after stack item)
  | .beginArray => some (.firstItem stack)
  | .beginObject => some (.firstKey stack)
  | _ => none

def endValue? (item : Json) : List Frame → Token → Option State
  | .array items :: stack, .comma => some (.value (.array (item :: items) :: stack))
  | .array items :: stack, .endArray => some (.after stack (.array (item :: items).reverse))
  | .object members name :: stack, .comma => some (.key stack ((name, item) :: members))
  | .object members name :: stack, .endObject =>
    some (.after stack (.object ((name, item) :: members).reverse))
  | _, _ => none

def next? : State → Token → Option State
  | .value stack, token => startValue? stack token
  | .firstItem stack, .endArray => some (.after stack (.array []))
  | .firstItem stack, token => startValue? (.array [] :: stack) token
  | .firstKey stack, .endObject => some (.after stack (.object []))
  | .firstKey stack, .scalar (.string name) => some (.colon stack [] name)
  | .key stack members, .scalar (.string name) => some (.colon stack members name)
  | .colon stack members name, .colon => some (.value (.object members name :: stack))
  | .after stack item, token => endValue? item stack token
  | _, _ => none

def run? (state : State) : List Token → Option State
  | [] => some state
  | token :: rest => (state.next? token).bind (·.run? rest)

end State

def read? (text : String) : Option Json :=
  match (tokens? text.toList).bind (State.value []).run? with
  | some (.after [] value) => some value
  | _ => none

def string? : Json → Option String
  | .string text => text
  | _ => none

def byte? : Json → Option Nat
  | .number spelling =>
    let digits := spelling.toList
    let n := Base.decimal.toNat digits
    if digits.all Base.decimal.isDigit && n ≤ 255 then some n else none
  | _ => none

def nullable? {α : Type} (read? : Json → Option α) : Json → Option (Option α)
  | .null => some none
  | value => (read? value).map some

def list? {α : Type} (read? : Json → Option α) : Json → Option (List α)
  | .array items => items.mapM read?
  | _ => none

def word? {α : Type} (words : List (String × α)) : Json → Option α
  | .string (some word) => words.lookup word
  | .object [(some word, .null)] => words.lookup word
  | _ => none

/--
The value of a key that is given at most once. The outer `none` stands for a key given twice.
-/
def member? (members : List (Option String × Json)) (key : String) : Option (Option Json) :=
  match members.filter (·.1 = some key) with
  | [] => some none
  | [(_, value)] => some (some value)
  | _ => none

def record? (keys : List String) : Json → Option (List (Option Json))
  | .object members =>
    if members.all (·.1.isSome) then keys.mapM (member? members) else none
  | .array items =>
    if items.length = keys.length then some (items.map some) else none
  | _ => none

end MipsWord.Json
