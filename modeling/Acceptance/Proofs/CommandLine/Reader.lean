import Acceptance.CommandLine.Reader
import Acceptance.Proofs.Lookup
import Acceptance.Proofs.Text.Delimited

namespace Acceptance.CommandLine

/-! The reader keeps the rules for options, defaults, global options and commands. An option
that stands in front with its value is settled at once. From then on the reader does what it
does without it, with one settled option more, until the option is named again. -/

/-! ### Names and options -/

theorem not_mem_of_isName {name : String} (isName : isName name = true) : '=' ∉ name.toList := by
  rw [CommandLine.isName] at isName
  cases characters : name.toList with
  | nil => exact List.not_mem_nil
  | cons first rest =>
      simp only [characters, Bool.and_eq_true, List.all_eq_true] at isName
      rw [List.mem_cons, not_or]
      constructor
      · intro same
        exact absurd isName.1.1 (same ▸ by decide)
      · intro member
        exact absurd (isName.1.2 _ member) (by decide)

theorem shapeOf_of_isName {name : String} (isName : isName name = true) :
    shapeOf name = .plain := by
  rw [CommandLine.isName] at isName
  rw [shapeOf]
  cases characters : name.toList with
  | nil => rfl
  | cons first rest =>
      simp only [characters, Bool.and_eq_true] at isName
      have letter : first ≠ '-' := by
        intro dash
        exact absurd isName.1.1 (dash ▸ by decide)
      simp [letter]

theorem splitValue_append {name : List Char} (plain : '=' ∉ name) (value : List Char) :
    splitValue (name ++ '=' :: value) = (String.ofList name, some (String.ofList value)) := by
  have inside : ∀ character ∈ name, decide (character ≠ '=') = true := by
    intro character member
    rw [decide_eq_true_iff]
    intro equals
    exact plain (equals ▸ member)
  have stop : Text.StartsWithStop (fun character => decide (character ≠ '=') = false)
      ('=' :: value) := Text.startsWithStop_cons (by decide) value
  rw [splitValue, Text.takeWhile_run inside stop, Text.dropWhile_run inside stop]

theorem shapeOf_argument {option : Declaration} (named : isName option.name = true)
    (value : String) : shapeOf (option.argument value) = .long option.name (some value) := by
  have characters : (option.argument value).toList =
      '-' :: '-' :: (option.name.toList ++ '=' :: value.toList) := by
    simp [Declaration.argument]
  have cut := splitValue_append (not_mem_of_isName named) value.toList
  rw [String.ofList_toList, String.ofList_toList] at cut
  have more : option.name.toList ++ '=' :: value.toList ≠ [] := by simp
  rcases List.exists_cons_of_ne_nil more with ⟨first, rest, text⟩
  rw [text] at characters cut
  simp only [shapeOf, characters, cut]

/-- An option with its value is not the name of a command. -/
theorem isCalled_argument {program : Program} {option : Declaration}
    (declared : option ∈ program.options) (value : String) :
    program.isCalled (option.argument value) = false := by
  have shape := shapeOf_argument (program.options_named option declared) value
  have notHelp : option.argument value ≠ "help" := by
    intro same
    rw [same] at shape
    cases shape
  have notCommand : program.command? (option.argument value) = none := by
    rw [Program.command?, List.find?_eq_none]
    intro command member same
    have plain := shapeOf_of_isName (program.commands_named command member)
    rw [of_decide_eq_true same, shape] at plain
    cases plain
  simp [Program.isCalled, notHelp, notCommand]

/-! ### One option more -/

theorem bind_eq_ok_iff {α β : Type} {first : Except UsageError α}
    {second : α → Except UsageError β} {result : β} :
    first >>= second = .ok result ↔
      ∃ between, first = .ok between ∧ second between = .ok result := by
  cases first with
  | error error => constructor <;> simp [Bind.bind, Except.bind]
  | ok between => simp [Bind.bind, Except.bind]

namespace Reading

variable {entry : String × String}

/-- The same reading after one option more. -/
def precede (entry : String × String) (reading : Reading) : Reading :=
  { reading with settled := entry :: reading.settled }

def IsFresh (entry : String × String) (reading : Reading) : Prop :=
  entry.1 ∉ reading.settled.map Prod.fst

theorem lookup_precede_self (option value : String) (reading : Reading) :
    (precede (option, value) reading).settled.lookup option = some value :=
  List.lookup_cons_self

theorem lookup_precede_of_ne {option other : String} (different : other ≠ option)
    (value : String) (reading : Reading) :
    (precede (option, value) reading).settled.lookup other = reading.settled.lookup other := by
  rw [precede, List.lookup_cons, beq_eq_false_iff_ne.mpr different]

/-- A step is none the worse for an option given earlier, unless this is given again. -/
def Ignores (entry : String × String) (step : Reading → Except UsageError Reading) : Prop :=
  ∀ reading result, step reading = .ok result → IsFresh entry result →
    IsFresh entry reading ∧ step (precede entry reading) = .ok (precede entry result)

theorem ignores_error {step : Reading → UsageError} :
    Ignores entry fun reading => .error (step reading) := by
  intro reading result read
  cases read

/-- A step that settles no option. -/
theorem ignores_ok (change : Reading → Reading)
    (keeps : ∀ reading, (change reading).settled = reading.settled)
    (alike : ∀ reading, change (precede entry reading) = precede entry (change reading)) :
    Ignores entry fun reading => .ok (change reading) := by
  intro reading result read fresh
  cases read
  rw [IsFresh, keeps] at fresh
  exact ⟨fresh, congrArg _ (alike reading)⟩

theorem Ignores.bind {first second : Reading → Except UsageError Reading}
    (ignoresFirst : Ignores entry first) (ignoresSecond : Ignores entry second) :
    Ignores entry fun reading => first reading >>= second := by
  intro reading result read fresh
  rcases bind_eq_ok_iff.mp read with ⟨between, readFirst, readSecond⟩
  have afterwards := ignoresSecond between result readSecond fresh
  have before := ignoresFirst reading between readFirst afterwards.1
  exact ⟨before.1, bind_eq_ok_iff.mpr ⟨_, before.2, afterwards.2⟩⟩

theorem ignores_foldlM {read : Reading → String → Except UsageError Reading}
    (ignores : ∀ argument, Ignores entry fun reading => read reading argument)
    (arguments : List String) : Ignores entry fun reading => arguments.foldlM read reading := by
  induction arguments with
  | nil => exact ignores_ok id (fun _ => rfl) (fun _ => rfl)
  | cons argument arguments induction => exact Ignores.bind (ignores argument) induction

theorem ignores_assign (option value : String) : Ignores entry (assign option value) := by
  intro reading result read fresh
  rw [assign] at read
  split at read
  · cases read
  · rename_i unassigned
    cases read
    rw [IsFresh, List.map_append, List.mem_append, not_or] at fresh
    have other : option ≠ entry.1 := by
      intro same
      exact fresh.2 (by simp [same])
    refine ⟨fresh.1, ?_⟩
    rw [assign, if_neg]
    · rfl
    · simp only [precede, List.map_cons, List.mem_cons, not_or]
      exact ⟨other, unassigned⟩

theorem ignores_settle : Ignores entry settle := by
  intro reading result read fresh
  rcases reading with ⟨settled, pending, separated, argument⟩
  match pending with
  | none => cases read; exact ⟨fresh, rfl⟩
  | some (_, none) => cases read
  | some (option, some value) => exact ignores_assign option value _ _ read fresh

theorem ignores_readLong (options : List String) (name : String) (value : Option String) :
    Ignores entry (readLong options name value) := by
  unfold readLong
  split
  · cases value with
    | some value => exact ignores_settle.bind (ignores_assign name value)
    | none =>
        exact ignores_settle.bind
          (ignores_ok (fun settled => { settled with pending := some (name, none) })
            (fun _ => rfl) (fun _ => rfl))
  · split
    · cases value with
      | some value => exact ignores_error
      | none => exact ignores_settle.bind ignores_error
    · exact ignores_error

theorem ignores_readShort (letter : Char) : Ignores entry (readShort letter) := by
  unfold readShort
  split
  · exact ignores_settle.bind ignores_error
  · exact ignores_error

theorem ignores_read {options : List String}
    {place : String → Reading → Except UsageError Reading}
    (ignores : ∀ argument, Ignores entry (place argument)) (argument : String) :
    Ignores entry fun reading => read options place reading argument := by
  intro reading result read fresh
  rcases reading with ⟨settled, pending, separated, plain⟩
  cases separated with
  | true => exact ignores argument _ _ read fresh
  | false =>
      simp only [Reading.read, precede, Bool.false_eq_true, if_false] at read ⊢
      cases shape : shapeOf argument with
      | separator =>
          simp only [shape] at read ⊢
          cases read
          exact ⟨fresh, rfl⟩
      | long name value =>
          simp only [shape] at read ⊢
          exact ignores_readLong options name value _ _ read fresh
      | short letter =>
          simp only [shape] at read ⊢
          exact ignores_readShort letter _ _ read fresh
      | plain =>
          simp only [shape] at read ⊢
          match pending with
          | some (option, none) => cases read; exact ⟨fresh, rfl⟩
          | none => exact ignores argument _ _ read fresh
          | some (option, some value) => exact ignores argument _ _ read fresh

theorem ignores_placeNowhere (program : Program) (argument : String) :
    Ignores entry (program.placeNowhere argument) := by
  intro reading result read
  rw [Program.placeNowhere] at read
  split at read <;> cases read

theorem ignores_placeArgument (command : Command) (argument : String) :
    Ignores entry (command.placeArgument argument) := by
  intro reading result read fresh
  rw [Command.placeArgument] at read
  split at read
  · rename_i room
    rw [Command.placeArgument, if_pos (by exact room)]
    exact ignores_settle.bind
      (ignores_ok (fun settled => { settled with argument := some argument })
        (fun _ => rfl) (fun _ => rfl)) _ _ read fresh
  · cases read

/-- Nothing is pending at the start, so an option with its value is settled at once. -/
theorem read_argument {option : Declaration} {options : List String}
    {place : String → Reading → Except UsageError Reading}
    (named : isName option.name = true) (member : option.name ∈ options) (value : String) :
    read options place {} (option.argument value) = .ok (precede (option.name, value) {}) := by
  rw [read, if_neg Bool.false_ne_true, shapeOf_argument named]
  simp only [readLong, if_pos member]
  rfl

end Reading

/-! ### Both levels -/

section

variable {program : Program} {option : Declaration} {entry : String × String}

theorem readFrom_precede {reading result : Reading} {called : Option (Command × List String)}
    {arguments : List String} (read : program.readFrom reading arguments = .ok (result, called))
    (fresh : Reading.IsFresh entry result) :
    Reading.IsFresh entry reading ∧ program.readFrom (Reading.precede entry reading) arguments =
      .ok (Reading.precede entry result, called) := by
  induction arguments generalizing reading with
  | nil =>
      cases read
      exact ⟨fresh, rfl⟩
  | cons argument arguments induction =>
      have admits : (Reading.precede entry reading).admitsCommand = reading.admitsCommand := rfl
      rw [Program.readFrom] at read ⊢
      rw [admits]
      split at read
      · rename_i calls
        rw [if_pos calls]
        cases found : program.command? argument with
        | some command =>
            simp only [found] at read ⊢
            cases read
            exact ⟨fresh, rfl⟩
        | none =>
            simp only [found] at read
            cases read
      · rename_i calls
        rw [if_neg calls]
        rcases bind_eq_ok_iff.mp read with ⟨between, readFirst, readRest⟩
        have afterwards := induction readRest
        have before := Reading.ignores_read (Reading.ignores_placeNowhere program) argument
          reading between readFirst afterwards.1
        exact ⟨before.1, bind_eq_ok_iff.mpr ⟨_, before.2, afterwards.2⟩⟩

theorem readBehind_cons {command : Command} {result : Reading} {arguments : List String}
    (declared : option ∈ program.options) (isGlobal : option.isGlobal = true) (value : String)
    (read : program.readBehind command arguments = .ok result)
    (fresh : Reading.IsFresh (option.name, value) result) :
    program.readBehind command (option.argument value :: arguments) =
      .ok (Reading.precede (option.name, value) result) := by
  have named : isName option.name = true := program.options_named option declared
  have member : option.name ∈ program.optionNames .command :=
    List.mem_map_of_mem (List.mem_filter.mpr ⟨declared, isGlobal⟩)
  have ignoresArgument : ∀ argument, Reading.Ignores (option.name, value) fun reading =>
      reading.read (program.optionNames .command) command.placeArgument argument :=
    Reading.ignores_read (Reading.ignores_placeArgument command)
  have ignores := Reading.Ignores.bind (Reading.ignores_foldlM ignoresArgument arguments)
    Reading.ignores_settle
  rw [Program.readBehind, List.foldlM_cons, Reading.read_argument named member]
  exact (ignores {} result read fresh).2

theorem readFrom_argument (declared : option ∈ program.options) (value : String)
    (arguments : List String) :
    program.readFrom {} (option.argument value :: arguments) =
      program.readFrom (Reading.precede (option.name, value) {}) arguments := by
  have named : isName option.name = true := program.options_named option declared
  have member : option.name ∈ program.optionNames .program := List.mem_map_of_mem declared
  rw [Program.readFrom, isCalled_argument declared, Bool.and_false, if_neg Bool.false_ne_true]
  simp only [Reading.read_argument named member]
  rfl

theorem readFrom_command {command : Command} (member : command ∈ program.commands)
    (arguments : List String) :
    program.readFrom {} (command.name :: arguments) = .ok ({}, some (command, arguments)) := by
  have found : program.command? command.name = some command :=
    find?_of_mem program.commands_distinct member
  have calls : program.isCalled command.name = true := by
    have declared : program.commands.isEmpty = false :=
      List.isEmpty_eq_false_iff.mpr (List.ne_nil_of_mem member)
    simp [Program.isCalled, found, declared]
  rw [Program.readFrom, calls, if_pos (by rfl), found]

theorem read_eq_ok_iff {arguments : List String} {matched : Reading.Matched} :
    program.read arguments = .ok matched ↔
      ∃ reading rest, program.readFrom {} arguments = .ok (reading, rest) ∧
        program.readCalled rest = .ok matched.called ∧
        reading.settle = .ok matched.own ∧ matched.program = program := by
  simp only [Program.read, bind_eq_ok_iff]
  constructor
  · intro read
    rcases read with ⟨⟨reading, rest⟩, start, called, behind, own, settled, equal⟩
    cases equal
    exact ⟨reading, rest, start, behind, settled, rfl⟩
  · intro parts
    rcases parts with ⟨reading, rest, start, behind, settled, rfl⟩
    exact ⟨⟨reading, rest⟩, start, matched.called, behind, matched.own, settled, rfl⟩

end

/-! ### The rules -/

theorem reader_optionRule : reader.OptionRule where
  parse_cons := by
    intro program option arguments fewer value declared parsed absent
    rcases read_eq_ok_iff.mp parsed with ⟨reading, rest, start, behind, settled, same⟩
    have fresh : Reading.IsFresh (option.name, value) fewer.own :=
      lookup_eq_none_iff.mp absent
    have settledMore := Reading.ignores_settle reading fewer.own settled fresh
    have startMore := readFrom_precede start settledMore.1
    rw [← readFrom_argument declared] at startMore
    refine ⟨{ fewer with own := Reading.precede (option.name, value) fewer.own }, ?_, ?_⟩
    · exact read_eq_ok_iff.mpr ⟨_, rest, startMore.2, behind, settledMore.2, same⟩
    · constructor
      · rfl
      · exact Reading.lookup_precede_self ..
      · intro level other different
        cases level with
        | program =>
            apply Reading.lookup_precede_of_ne
            intro same
            exact different (congrArg _ same)
        | command => rfl
  value_of_given := by
    intro program option arguments matched value declared parsed inner own
    change (reader.given matched .command option.name).or _ = some value
    rw [inner]
    change (reader.given matched .program option.name).or _ = some value
    rw [own]
    rfl

theorem reader_defaultRule : reader.DefaultRule where
  value_of_not_given := by
    intro program option arguments matched declared parsed absent
    rcases read_eq_ok_iff.mp parsed with ⟨_, _, _, _, _, rfl⟩
    change (reader.given matched .command option.name).or _ = some option.defaultValue
    rw [absent .command]
    change (reader.given matched .program option.name).or _ = some option.defaultValue
    rw [absent .program, find?_of_mem matched.program.options_distinct declared]
    rfl

theorem reader_globalRule : reader.GlobalRule where
  parse_command_cons := by
    intro program option command arguments fewer value declared isGlobal member parsed absent
    rcases read_eq_ok_iff.mp parsed with ⟨reading, rest, started, behind, settled, same⟩
    rw [readFrom_command member] at started
    cases started
    rcases bind_eq_ok_iff.mp behind with ⟨inner, readInner, equal⟩
    rcases fewer with ⟨fewerProgram, own, _⟩
    cases equal
    have fresh : Reading.IsFresh (option.name, value) inner :=
      lookup_eq_none_iff.mp absent
    have more := readBehind_cons declared isGlobal value readInner fresh
    refine ⟨{ program, own, called := some (command, Reading.precede (option.name, value) inner) },
      ?_, ?_⟩
    · exact read_eq_ok_iff.mpr ⟨_, _, readFrom_command member _,
        bind_eq_ok_iff.mpr ⟨_, more, rfl⟩, settled, rfl⟩
    · constructor
      · rfl
      · exact Reading.lookup_precede_self ..
      · intro level other different
        cases level with
        | program => rfl
        | command =>
            apply Reading.lookup_precede_of_ne
            intro same
            exact different (congrArg _ same)
  value_of_given := by
    intro program option arguments matched value declared isGlobal parsed inner
    change (reader.given matched .command option.name).or _ = some value
    rw [inner]
    rfl

theorem reader_commandRule : reader.CommandRule where
  parse_nil := by
    intro program
    refine ⟨{ program, own := {}, called := none }, rfl, rfl, ?_⟩
    intro level option
    cases level <;> rfl
  parse_command := by
    intro program command member
    refine ⟨{ program, own := {}, called := some (command, {}) }, ?_, rfl, ?_⟩
    · exact read_eq_ok_iff.mpr ⟨{}, _, readFrom_command member [], rfl, rfl, rfl⟩
    · intro level option
      cases level <;> rfl

end Acceptance.CommandLine
