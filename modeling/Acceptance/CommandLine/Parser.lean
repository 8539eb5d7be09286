namespace Acceptance

/-! What is relied on in the parser of a command line. A program that runs tables brings its
own parser, so here it is any function from the arguments to what they match. Of its rules
for options, defaults, global options and commands those are named that matter. -/

namespace CommandLine

/-! ### Programs -/

/-- A word that can name an option or a command. The word `help` is taken. -/
def isName (text : String) : Bool :=
  match text.toList with
  | [] => false
  | first :: rest =>
      first.isAlpha && rest.all (fun character => character.isAlphanum || character = '-') &&
        text ≠ "help"

/-- An option that has one text as its value. -/
structure Declaration where
  name : String
  /-- The value where the option is not given. -/
  defaultValue : String
  /-- Whether the option may also be given behind the command. -/
  isGlobal : Bool
deriving DecidableEq

/-- An option and its value as one argument. -/
def Declaration.argument (option : Declaration) (value : String) : String :=
  "--" ++ option.name ++ "=" ++ value

structure Command where
  name : String
  /-- Whether one plain argument may follow it. -/
  takesArgument : Bool
deriving DecidableEq

/-- A program with options and commands. It may be called without a command. -/
structure Program where
  options : List Declaration
  commands : List Command
  options_distinct : (options.map Declaration.name).Nodup
  commands_distinct : (commands.map Command.name).Nodup
  options_named : ∀ option ∈ options, isName option.name = true
  commands_named : ∀ command ∈ commands, isName command.name = true

/-- The arguments of a program before its command, and those behind it. -/
inductive Level where
  | program
  | command
deriving DecidableEq

/-! ### Parsers -/

structure Parser where
  Failure : Type
  Matched : Type
  parse : Program → List String → Except Failure Matched
  /-- The command that is called. -/
  command : Matched → Option String
  /-- What the arguments of a level give to an option, if they give it anything. -/
  given : Matched → Level → String → Option String
  /-- The value that the program gets for an option. -/
  value : Matched → String → Option String

namespace Parser

variable (parser : Parser)

/-- There is one option more on a level, and all else is as before. -/
structure Adds (fewer more : parser.Matched) (level : Level) (option value : String) : Prop where
  command_eq : parser.command more = parser.command fewer
  given_self : parser.given more level option = some value
  given_other : ∀ otherLevel other, (otherLevel, other) ≠ (level, option) →
    parser.given more otherLevel other = parser.given fewer otherLevel other

/-- An option may be named once before the command, and what follows its first equals sign
is its value. -/
structure OptionRule : Prop where
  parse_cons : ∀ {program : Program} {option : Declaration} {arguments : List String}
    {fewer : parser.Matched} (value : String), option ∈ program.options →
    parser.parse program arguments = .ok fewer →
    parser.given fewer .program option.name = none →
    ∃ more, parser.parse program (option.argument value :: arguments) = .ok more ∧
      parser.Adds fewer more .program option.name value
  value_of_given : ∀ {program : Program} {option : Declaration} {arguments : List String}
    {matched : parser.Matched} {value : String}, option ∈ program.options →
    parser.parse program arguments = .ok matched →
    parser.given matched .command option.name = none →
    parser.given matched .program option.name = some value →
    parser.value matched option.name = some value

/-- An option that is not given has its default. -/
structure DefaultRule : Prop where
  value_of_not_given : ∀ {program : Program} {option : Declaration} {arguments : List String}
    {matched : parser.Matched}, option ∈ program.options →
    parser.parse program arguments = .ok matched →
    (∀ level, parser.given matched level option.name = none) →
    parser.value matched option.name = some option.defaultValue

/-- A global option may also be named once behind the command, and its value there is handed
back to the program. -/
structure GlobalRule : Prop where
  parse_command_cons : ∀ {program : Program} {option : Declaration} {command : Command}
    {arguments : List String} {fewer : parser.Matched} (value : String),
    option ∈ program.options → option.isGlobal = true → command ∈ program.commands →
    parser.parse program (command.name :: arguments) = .ok fewer →
    parser.given fewer .command option.name = none →
    ∃ more, parser.parse program (command.name :: option.argument value :: arguments) =
        .ok more ∧
      parser.Adds fewer more .command option.name value
  value_of_given : ∀ {program : Program} {option : Declaration} {arguments : List String}
    {matched : parser.Matched} {value : String}, option ∈ program.options →
    option.isGlobal = true → parser.parse program arguments = .ok matched →
    parser.given matched .command option.name = some value →
    parser.value matched option.name = some value

/-- A program may be called by nothing but the name of a command, and without a command. -/
structure CommandRule : Prop where
  parse_nil : ∀ program : Program, ∃ matched, parser.parse program [] = .ok matched ∧
    parser.command matched = none ∧ ∀ level option, parser.given matched level option = none
  parse_command : ∀ {program : Program} {command : Command}, command ∈ program.commands →
    ∃ matched, parser.parse program [command.name] = .ok matched ∧
      parser.command matched = some command.name ∧
      ∀ level option, parser.given matched level option = none

end Parser

end CommandLine

end Acceptance
