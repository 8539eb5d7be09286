import Acceptance.CommandLine.Parser

namespace Acceptance

/-! A parser that reads the arguments from left to right. The options may stand on either side
of the command, which are two levels of the command line. -/

inductive UsageError where
  | unknownArgument
  | invalidValue
  | tooManyValues
  | argumentConflict
  | invalidSubcommand
  | displayHelp
deriving DecidableEq

namespace CommandLine

/-! ### Shapes of arguments -/

inductive Shape where
  /-- Two dashes alone: no argument after them is an option. -/
  | separator
  /-- Two dashes and a name, with the value after an equals sign if there is one. -/
  | long (name : String) (value : Option String)
  /-- One dash and a letter, whatever follows it. -/
  | short (letter : Char)
  | plain
deriving DecidableEq

def splitValue (text : List Char) : String × Option String :=
  (String.ofList (text.takeWhile (· ≠ '=')),
    match text.dropWhile (· ≠ '=') with
    | [] => none
    | _ :: value => some (String.ofList value))

def shapeOf (argument : String) : Shape :=
  match argument.toList with
  | ['-', '-'] => .separator
  | '-' :: '-' :: text =>
      let (name, value) := splitValue text
      .long name value
  | '-' :: letter :: _ => .short letter
  | _ => .plain

/-! ### Reading arguments

An option that was named without a value takes the next plain argument as its value. It
is settled only when something else comes up, so a fault in what comes next may be
reported before a fault of the option itself. -/

structure Reading where
  settled : List (String × String) := []
  pending : Option (String × Option String) := none
  separated : Bool := false
  argument : Option String := none

namespace Reading

def awaitsValue (reading : Reading) : Bool :=
  match reading.pending with
  | some (_, none) => true
  | _ => false

def admitsCommand (reading : Reading) : Bool :=
  !reading.separated && !reading.awaitsValue

/-- Give an option its value. It may have only one. -/
def assign (option value : String) (reading : Reading) : Except UsageError Reading :=
  if option ∈ reading.settled.map Prod.fst then
    .error .argumentConflict
  else
    .ok { reading with settled := reading.settled ++ [(option, value)] }

def settle (reading : Reading) : Except UsageError Reading :=
  match reading.pending with
  | none => .ok reading
  | some (_, none) => .error .invalidValue
  | some (option, some value) => { reading with pending := none }.assign option value

def readLong (options : List String) (name : String) (value : Option String)
    (reading : Reading) : Except UsageError Reading :=
  if name ∈ options then
    match value with
    | some value => do
        let settled ← reading.settle
        settled.assign name value
    | none => do
        let settled ← reading.settle
        .ok { settled with pending := some (name, none) }
  else if name = "help" then
    match value with
    | some _ => .error .tooManyValues
    | none => do
        let _ ← reading.settle
        .error .displayHelp
  else
    .error .unknownArgument

def readShort (letter : Char) (reading : Reading) : Except UsageError Reading := do
  if letter = 'h' then
    let _ ← reading.settle
    .error .displayHelp
  else
    .error .unknownArgument

/-- Read one argument, where these options may be named. An argument that is no option and no
value of an option is left to `place`. -/
def read (options : List String) (place : String → Reading → Except UsageError Reading)
    (reading : Reading) (argument : String) : Except UsageError Reading :=
  if reading.separated then
    place argument reading
  else
    match shapeOf argument with
    | .separator => .ok { reading with separated := true }
    | .long name value => reading.readLong options name value
    | .short letter => reading.readShort letter
    | .plain =>
        match reading.pending with
        | some (option, none) =>
            .ok { reading with pending := some (option, some argument) }
        | _ => place argument reading

end Reading

namespace Program

variable (program : Program)

def command? (name : String) : Option Command :=
  program.commands.find? fun command => command.name = name

/-- Whether the word calls something: a command, or the explanation of the commands. -/
def isCalled (name : String) : Bool :=
  !program.commands.isEmpty && (name = "help" || (program.command? name).isSome)

/-- The options that may be named on a level. -/
def optionNames : Level → List String
  | .program => program.options.map Declaration.name
  | .command => (program.options.filter Declaration.isGlobal).map Declaration.name

/-- Before the command no plain argument has a place. A command's name cannot stand after
two dashes. -/
def placeNowhere (argument : String) (reading : Reading) : Except UsageError Reading :=
  if program.commands.isEmpty || (reading.separated && program.isCalled argument) then
    .error .unknownArgument
  else
    .error .invalidSubcommand

end Program

/-- Behind the command the first plain argument is its own if it takes one, and there is no
second. -/
def Command.placeArgument (command : Command) (argument : String) (reading : Reading) :
    Except UsageError Reading :=
  if command.takesArgument && reading.argument.isNone then do
    let settled ← reading.settle
    .ok { settled with argument := some argument }
  else
    .error .unknownArgument

namespace Program

variable (program : Program)

/-- What `help` answers: it explains the program, or the command that is named after it. -/
def help : List String → UsageError
  | [] => .displayHelp
  | [name] => if program.isCalled name then .displayHelp else .invalidSubcommand
  | _ => .invalidSubcommand

/-- Read the arguments up to a command, from where the given ones have been read. The command
is returned with the arguments behind it. -/
def readFrom (reading : Reading) :
    List String → Except UsageError (Reading × Option (Command × List String))
  | [] => .ok (reading, none)
  | argument :: arguments =>
      if reading.admitsCommand && program.isCalled argument then
        match program.command? argument with
        | some command => .ok (reading, some (command, arguments))
        | none => .error (program.help arguments)
      else do
        let names := program.optionNames .program
        readFrom (← reading.read names program.placeNowhere argument) arguments

def readBehind (command : Command) (arguments : List String) : Except UsageError Reading := do
  let reading ← arguments.foldlM
    (Reading.read (program.optionNames .command) command.placeArgument) {}
  reading.settle

end Program

/-- What the reader has matched. -/
structure Reading.Matched where
  program : Program
  own : Reading
  called : Option (Command × Reading)

namespace Reading.Matched

def given (matched : Matched) (level : Level) (option : String) : Option String :=
  match level with
  | .program => matched.own.settled.lookup option
  | .command => matched.called.bind fun called => called.2.settled.lookup option

/-- An option has the value of the innermost level that gives it, or else its default. -/
def value (matched : Matched) (option : String) : Option String :=
  (matched.given .command option).or <| (matched.given .program option).or <|
    (matched.program.options.find? fun declared => declared.name = option).map
      Declaration.defaultValue

end Reading.Matched

namespace Program

variable (program : Program)

def readCalled : Option (Command × List String) → Except UsageError (Option (Command × Reading))
  | none => .ok none
  | some (command, arguments) => do
      let inner ← program.readBehind command arguments
      .ok (some (command, inner))

/-- Faults of what is behind the command are reported before those of a pending option. -/
def read (arguments : List String) : Except UsageError Reading.Matched := do
  let (reading, rest) ← program.readFrom {} arguments
  let called ← program.readCalled rest
  let own ← reading.settle
  .ok { program, own, called }

end Program

def reader : Parser where
  Failure := UsageError
  Matched := Reading.Matched
  parse := Program.read
  command matched := matched.called.map fun called => called.1.name
  given := Reading.Matched.given
  value := Reading.Matched.value

end CommandLine

end Acceptance
