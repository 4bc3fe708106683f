import MipsWord.Inspect

namespace MipsWord

inductive OutputFormat where
  | text
  | json
  deriving Repr, DecidableEq

def OutputFormat.words : List (String × OutputFormat) :=
  [("text", .text), ("json", .json)]

structure ViewOptions where
  registers : Option RegisterMode
  immediates : Option Base
  config : Option String
  format : Option OutputFormat
  deriving Repr, DecidableEq

structure Arguments where
  operands : List String
  hex : Bool
  view : ViewOptions
  deriving Repr, DecidableEq

inductive Command where
  | decode (word : String) (format : WordFormat) (view : ViewOptions)
  | encode (line : String) (view : ViewOptions)
  deriving Repr, DecidableEq

def ViewOptions.set? (view : ViewOptions) (name value : String) : Option ViewOptions :=
  if name = "--registers" ∧ view.registers = none then
    (RegisterMode.words.lookup value).map fun mode => { view with registers := some mode }
  else if name = "--immediates" ∧ view.immediates = none then
    (Base.words.lookup value).map fun base => { view with immediates := some base }
  else if name = "--config" ∧ view.config = none ∧ value ≠ "" then
    some { view with config := some value }
  else if name = "--format" ∧ view.format = none then
    (OutputFormat.words.lookup value).map fun format => { view with format := some format }
  else
    none

namespace Arguments

def empty : Arguments where
  operands := []
  hex := false
  view := { registers := none, immediates := none, config := none, format := none }

def isOption (argument : String) : Bool :=
  match argument.toList with
  | '-' :: _ :: _ => true
  | _ => false

def splitOption (argument : String) : String × Option String :=
  let chars := argument.toList
  match chars.dropWhile (· ≠ '=') with
  | _ :: value => (String.ofList (chars.takeWhile (· ≠ '=')), some (String.ofList value))
  | [] => (argument, none)

def set? (arguments : Arguments) (name value : String) : Option Arguments :=
  (arguments.view.set? name value).map fun view => { arguments with view }

def read? (arguments : Arguments) : List String → Option Arguments
  | [] => some arguments
  | argument :: rest =>
    if argument = "--" then
      some { arguments with operands := arguments.operands ++ rest }
    else if !isOption argument then
      read? { arguments with operands := arguments.operands ++ [argument] } rest
    else
      match splitOption argument with
      | (name, some value) => (arguments.set? name value).bind (read? · rest)
      | (name, none) =>
        if name = "--hex" then
          if arguments.hex then none else read? { arguments with hex := true } rest
        else
          match rest with
          | value :: rest =>
            if isOption value then none else (arguments.set? name value).bind (read? · rest)
          | [] => none

end Arguments

namespace Command

def ofDecode? (arguments : Arguments) : Option Command :=
  match arguments.operands with
  | [word] => some (.decode word (if arguments.hex then .hex else .binary) arguments.view)
  | _ => none

def ofEncode? (arguments : Arguments) : Option Command :=
  match arguments.hex, arguments.operands with
  | false, first :: more => some (.encode (" ".intercalate (first :: more)) arguments.view)
  | _, _ => none

def read? : List String → Option Command
  | "decode" :: rest => (Arguments.empty.read? rest).bind ofDecode?
  | "encode" :: rest => (Arguments.empty.read? rest).bind ofEncode?
  | _ => none

def view : Command → ViewOptions
  | decode _ _ view => view
  | encode _ view => view

end Command

structure Output where
  exitCode : Nat
  stdout : String
  stderr : String
  deriving Repr, DecidableEq

namespace Output

def success (stdout : String) : Output :=
  { exitCode := 0, stdout, stderr := "" }

def failure (message : String) : Output :=
  { exitCode := 1, stdout := "", stderr := message ++ "\n" }

end Output

def Report.print (report : Report) : OutputFormat → String
  | .text => report.toText
  | .json => report.toJson.pretty ++ "\n"

namespace Command

def inspect (command : Command) (tables : Tables) (settings : Settings) : Output :=
  let output := command.view.format.getD .text
  match command with
  | decode word format _ =>
    let word := String.ofList (Text.trim word.toList)
    .success ((inspectWord tables settings format word).print output)
  | encode line _ =>
    match inspectLine tables settings line with
    | (_, some report) => .success (report.print output)
    | (outcome, none) =>
      match outcome.message? with
      | some message => .failure message.display
      | none => .failure "error: not a recognised instruction"

def run (command : Command) (tables : Tables) (content : Option String) : Output :=
  let config := command.view.config.map fun path => { path, content }
  match Settings.load config command.view.registers command.view.immediates with
  | .error error => .failure ("Error: " ++ error.message)
  | .ok settings => command.inspect tables settings

end Command
end MipsWord
