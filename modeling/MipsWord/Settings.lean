import MipsWord.Json.Reader

namespace MipsWord

inductive RegisterMode where
  | names
  | numbers
  deriving Repr, DecidableEq

structure Settings where
  registerMode : RegisterMode
  immediateFormat : Base
  deriving Repr, DecidableEq

def Settings.fallback : Settings where
  registerMode := .names
  immediateFormat := .decimal

def RegisterMode.words : List (String × RegisterMode) :=
  [("names", .names), ("numbers", .numbers)]

def Base.words : List (String × Base) :=
  [("hex", .hexadecimal), ("decimal", .decimal), ("binary", .binary)]

structure ConfigFile where
  path : String
  content : Option String
  deriving Repr, DecidableEq

inductive SettingsError where
  | unreadable (path : String)
  | malformed (path : String)
  deriving Repr, DecidableEq

def SettingsError.message : SettingsError → String
  | unreadable path => "reading settings from " ++ path
  | malformed path => "parsing settings in " ++ path

namespace Settings

def ofJson? (value : Json) : Option Settings :=
  match Json.record? ["registerMode", "immediateFormat"] value with
  | some [some registerMode, some immediateFormat] =>
    match Json.word? RegisterMode.words registerMode, Json.word? Base.words immediateFormat with
    | some registerMode, some immediateFormat => some { registerMode, immediateFormat }
    | _, _ => none
  | _ => none

def read? (text : String) : Option Settings :=
  (Json.read? text).bind ofJson?

def ofConfig : Option ConfigFile → Except SettingsError Settings
  | none => .ok fallback
  | some { path, content } =>
    match content with
    | none => .error (.unreadable path)
    | some text =>
      match read? text with
      | none => .error (.malformed path)
      | some settings => .ok settings

def load (config : Option ConfigFile) (registers : Option RegisterMode) (immediates : Option Base) :
    Except SettingsError Settings :=
  (ofConfig config).map fun settings =>
    { registerMode := registers.getD settings.registerMode
      immediateFormat := immediates.getD settings.immediateFormat }

end Settings
end MipsWord
