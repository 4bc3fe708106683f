import MipsWord.CommandLine.Run
import MipsWord.Tables.Load

namespace MipsWord

def readFile? (path : String) : IO (Option String) :=
  try
    return some (← IO.FS.readFile path)
  catch _ =>
    return none

end MipsWord

def main (arguments : List String) : IO UInt32 := do
  match MipsWord.Command.read? arguments with
  | none =>
    IO.eprintln "usage: (decode WORD [--hex] | encode ASM...) [--registers names|numbers]"
    IO.eprintln "  [--immediates hex|decimal|binary] [--config FILE] [--format text|json]"
    return 2
  | some command =>
    let content ← match command.view.config with
      | some path => MipsWord.readFile? path
      | none => pure none
    let output := command.run MipsWord.Tables.builtin content
    IO.print output.stdout
    IO.eprint output.stderr
    return output.exitCode.toUInt32
