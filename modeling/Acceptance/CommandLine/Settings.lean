import Acceptance.Config
import Acceptance.CommandLine.Parser

namespace Acceptance

/-! The configuration as options of a command line. A host program declares them among its
own and reads them from what its parser has matched. -/

inductive Setting where
  | andKeyword
  | passMarker
  | failMarker
  | errorPrefix
deriving DecidableEq

namespace Setting

def all : List Setting :=
  [.andKeyword, .passMarker, .failMarker, .errorPrefix]

/-- The option for a setting. Its default is declared here apart from the configuration's. -/
def declaration (setting : Setting) : CommandLine.Declaration where
  name := match setting with
    | .andKeyword => "and-keyword"
    | .passMarker => "pass-marker"
    | .failMarker => "fail-marker"
    | .errorPrefix => "error-prefix"
  defaultValue := match setting with
    | .andKeyword => "AND"
    | .passMarker => "pass"
    | .failMarker => "fail"
    | .errorPrefix => "error:"
  isGlobal := true

end Setting

/-- A configuration with the value of its option in each field. -/
def Config.ofValues? (value : Setting → Option String) : Option Config := do
  let andKeyword ← value .andKeyword
  let passMarker ← value .passMarker
  let failMarker ← value .failMarker
  let errorPrefix ← value .errorPrefix
  pure { andKeyword, passMarker, failMarker, errorPrefix }

namespace CommandLine

/-- The configuration that a host program reads from what its parser has matched. -/
def Parser.config? (parser : Parser) (matched : parser.Matched) : Option Config :=
  Config.ofValues? fun setting => parser.value matched setting.declaration.name

/-- The name of the command that runs a table. -/
def runCommand : String :=
  "run"

/-- A program with the options of the configuration and the command `run`. It may have more
of both. -/
structure Program.IsHost (program : Program) : Prop where
  declares : ∀ setting : Setting, setting.declaration ∈ program.options
  runs : ∃ command ∈ program.commands, command.name = runCommand

/-- The host with nothing else. Its command takes the name of a table. -/
def plainHost : Program where
  options := Setting.all.map Setting.declaration
  commands := [{ name := runCommand, takesArgument := true }]
  options_distinct := by decide
  commands_distinct := by decide
  options_named := by decide
  commands_named := by decide

end CommandLine

end Acceptance
