import Acceptance.CommandLine.Settings
import Acceptance.Proofs.CommandLine.Reader

namespace Acceptance

/-! Options of a host program that have their values behind an equals sign. Whichever parser
it is that keeps the rules, the configuration is the default one but for the settings that are
given, wherever the options stand. The options are added one by one, those behind the command
first, and on each of the two levels none of them gets into another. -/

/-- A configuration with the values that are assigned, and its own for the other settings. -/
def Config.override (config : Config) (assignment : Setting → Option String) : Config where
  andKeyword := (assignment .andKeyword).getD config.andKeyword
  passMarker := (assignment .passMarker).getD config.passMarker
  failMarker := (assignment .failMarker).getD config.failMarker
  errorPrefix := (assignment .errorPrefix).getD config.errorPrefix

theorem Config.override_override (config : Config) (first second : Setting → Option String) :
    (config.override first).override second =
      config.override fun setting => (second setting).or (first setting) := by
  have value : ∀ setting (own : String), (second setting).getD ((first setting).getD own) =
      ((second setting).or (first setting)).getD own := by
    intro setting own
    cases second setting <;> rfl
  simp only [Config.override, value]

namespace CommandLine

/-! ### Lists of options -/

/-- The options as arguments. -/
def written (options : List (Setting × String)) : List String :=
  options.map fun option => option.1.declaration.argument option.2

/-- The options in some order, each of them once, that assign these values. -/
structure Arranges (options : List (Setting × String)) (assignment : Setting → Option String) :
    Prop where
  once : (options.map Prod.fst).Nodup
  mem_iff : ∀ setting value, (setting, value) ∈ options ↔ assignment setting = some value

namespace Arranges

variable {options others : List (Setting × String)} {assignment : Setting → Option String}

theorem of_once (once : (options.map Prod.fst).Nodup) :
    Arranges options fun setting => options.lookup setting where
  once := once
  mem_iff _ _ := (lookup_eq_some_iff once).symm

theorem of_perm (arranges : Arranges options assignment) (reordered : options.Perm others) :
    Arranges others assignment where
  once := (reordered.map Prod.fst).nodup_iff.mp arranges.once
  mem_iff setting value := reordered.mem_iff.symm.trans (arranges.mem_iff setting value)

theorem lookup_eq (arranges : Arranges options assignment) :
    (fun setting => options.lookup setting) = assignment := by
  funext setting
  apply Option.ext
  intro value
  rw [lookup_eq_some_iff arranges.once, arranges.mem_iff]

end Arranges

/-! ### What the options give -/

theorem name_injective {left right : Setting}
    (same : left.declaration.name = right.declaration.name) : left = right := by
  revert same
  cases left <;> cases right <;> decide

/-- What is matched has this command, and on each level what these options give. -/
structure Parser.Gives (parser : Parser) (matched : parser.Matched) (command : Option String)
    (options : Level → List (Setting × String)) : Prop where
  command_eq : parser.command matched = command
  given_eq : ∀ level (setting : Setting),
    parser.given matched level setting.declaration.name = (options level).lookup setting

section

variable {parser : Parser} {host : Program} {command : Option String} {level : Level}
  {options : Level → List (Setting × String)}

theorem Parser.Gives.of_adds {fewer more : parser.Matched} {setting : Setting} {value : String}
    (gives : parser.Gives fewer command options)
    (adds : parser.Adds fewer more level setting.declaration.name value) :
    parser.Gives more command
      (Function.update options level ((setting, value) :: options level)) where
  command_eq := adds.command_eq.trans gives.command_eq
  given_eq otherLevel other := by
    by_cases sameLevel : otherLevel = level
    · rw [sameLevel, Function.update_self, List.lookup_cons]
      by_cases same : other = setting
      · rw [same, beq_self_eq_true]
        exact adds.given_self
      · rw [beq_eq_false_iff_ne.mpr same, ← gives.given_eq]
        apply adds.given_other
        intro equal
        exact same (name_injective (Prod.mk.inj equal).2)
    · rw [Function.update_of_ne sameLevel, ← gives.given_eq]
      apply adds.given_other
      intro equal
      exact sameLevel (Prod.mk.inj equal).1

/-- Behind these arguments the level takes one setting more. -/
def Parser.TakesSettings (parser : Parser) (host : Program) (level : Level)
    (lead : List String) : Prop :=
  ∀ (setting : Setting) (value : String) {arguments : List String} {fewer : parser.Matched},
    parser.parse host (lead ++ arguments) = .ok fewer →
    parser.given fewer level setting.declaration.name = none →
    ∃ more, parser.parse host (lead ++ setting.declaration.argument value :: arguments) =
        .ok more ∧
      parser.Adds fewer more level setting.declaration.name value

theorem Parser.OptionRule.takesSettings (rule : parser.OptionRule) (isHost : host.IsHost) :
    parser.TakesSettings host .program [] := by
  intro setting value arguments fewer parsed absent
  exact rule.parse_cons value (isHost.declares setting) parsed absent

theorem Parser.GlobalRule.takesSettings (rule : parser.GlobalRule) (isHost : host.IsHost) :
    parser.TakesSettings host .command [runCommand] := by
  intro setting value arguments fewer parsed absent
  rcases isHost.runs with ⟨command, member, named⟩
  rw [← named] at parsed ⊢
  exact rule.parse_command_cons value (isHost.declares setting) rfl member parsed absent

/-- By induction on the options, the last of them first. -/
theorem Parser.TakesSettings.parse_written {lead arguments : List String}
    {fewer : parser.Matched} (takes : parser.TakesSettings host level lead)
    (parsed : parser.parse host (lead ++ arguments) = .ok fewer)
    (gives : parser.Gives fewer command options) (empty : options level = [])
    {given : List (Setting × String)} (once : (given.map Prod.fst).Nodup) :
    ∃ more, parser.parse host (lead ++ (written given ++ arguments)) = .ok more ∧
      parser.Gives more command (Function.update options level given) := by
  induction given with
  | nil =>
      refine ⟨fewer, parsed, ?_⟩
      rw [← empty, Function.update_eq_self]
      exact gives
  | cons option given induction =>
      rcases option with ⟨setting, value⟩
      rw [List.map_cons, List.nodup_cons] at once
      rcases induction once.2 with ⟨most, parsedMost, givesMost⟩
      have absent : parser.given most level setting.declaration.name = none := by
        rw [givesMost.given_eq, Function.update_self, lookup_eq_none_iff.mpr once.1]
      rcases takes setting value parsedMost absent with ⟨more, parsedMore, adds⟩
      have givesMore := givesMost.of_adds adds
      rw [Function.update_self, Function.update_idem] at givesMore
      exact ⟨more, parsedMore, givesMore⟩

end

/-! ### The rules together -/

section

variable {parser : Parser} {host : Program} {before after : List (Setting × String)}

theorem parse_run (optionRule : parser.OptionRule) (globalRule : parser.GlobalRule)
    (commandRule : parser.CommandRule) (isHost : host.IsHost)
    (onceBefore : (before.map Prod.fst).Nodup) (onceAfter : (after.map Prod.fst).Nodup) :
    ∃ matched, parser.parse host (written before ++ runCommand :: written after) = .ok matched ∧
      parser.Gives matched (some runCommand)
        (Function.update (Function.update (fun _ => []) .command after) .program before) := by
  rcases isHost.runs with ⟨command, member, named⟩
  rcases commandRule.parse_command member with ⟨alone, parsed, called, nothing⟩
  rw [named] at parsed called
  have gives : parser.Gives alone (some runCommand) fun _ => [] :=
    ⟨called, fun level setting => nothing level _⟩
  rcases (globalRule.takesSettings isHost).parse_written parsed gives rfl onceAfter with
    ⟨behind, parsedBehind, givesBehind⟩
  rw [List.append_nil] at parsedBehind
  exact (optionRule.takesSettings isHost).parse_written parsedBehind givesBehind rfl onceBefore

theorem parse_without_run (optionRule : parser.OptionRule) (commandRule : parser.CommandRule)
    (isHost : host.IsHost) (once : (before.map Prod.fst).Nodup) :
    ∃ matched, parser.parse host (written before) = .ok matched ∧
      parser.Gives matched none (Function.update (fun _ => []) .program before) := by
  rcases commandRule.parse_nil host with ⟨bare, parsed, called, nothing⟩
  have gives : parser.Gives bare none fun _ => [] :=
    ⟨called, fun level setting => nothing level _⟩
  have written := (optionRule.takesSettings isHost).parse_written parsed gives rfl once
  rw [List.nil_append, List.append_nil] at written
  exact written

/-- Each setting has the value behind the command, or else the one before it, or else the
default that its option declares. -/
theorem value_of_gives (optionRule : parser.OptionRule) (defaultRule : parser.DefaultRule)
    (globalRule : parser.GlobalRule) (isHost : host.IsHost) {arguments : List String}
    {matched : parser.Matched} {command : Option String}
    {options : Level → List (Setting × String)}
    (parsed : parser.parse host arguments = .ok matched)
    (gives : parser.Gives matched command options) (setting : Setting) :
    parser.value matched setting.declaration.name =
      some (((options .command).lookup setting).getD
        (((options .program).lookup setting).getD setting.declaration.defaultValue)) := by
  have declared := isHost.declares setting
  have behind := gives.given_eq .command setting
  have own := gives.given_eq .program setting
  cases inner : (options .command).lookup setting with
  | some value =>
      rw [inner] at behind
      exact globalRule.value_of_given declared rfl parsed behind
  | none =>
      rw [inner] at behind
      cases outer : (options .program).lookup setting with
      | some value =>
          rw [outer] at own
          exact optionRule.value_of_given declared parsed behind own
      | none =>
          rw [outer] at own
          apply defaultRule.value_of_not_given declared parsed
          intro level
          cases level with
          | program => exact own
          | command => exact behind

theorem config?_of_gives (optionRule : parser.OptionRule) (defaultRule : parser.DefaultRule)
    (globalRule : parser.GlobalRule) (isHost : host.IsHost) {arguments : List String}
    {matched : parser.Matched} {command : Option String}
    {options : Level → List (Setting × String)}
    (parsed : parser.parse host arguments = .ok matched)
    (gives : parser.Gives matched command options) :
    parser.config? matched =
      some ((({} : Config).override fun setting => (options .program).lookup setting).override
        fun setting => (options .command).lookup setting) := by
  have value := value_of_gives optionRule defaultRule globalRule isHost parsed gives
  simp only [Parser.config?, Config.ofValues?, value]
  rfl

/-- Options that are each given once override the defaults and change nothing else, wherever
they stand before and after `run`. An option after `run` overrides the same one before it.
Without `run` the defaults are overridden alike. -/
theorem options_override_defaults (optionRule : parser.OptionRule)
    (defaultRule : parser.DefaultRule) (globalRule : parser.GlobalRule)
    (commandRule : parser.CommandRule) (isHost : host.IsHost)
    (before after : List (Setting × String)) :
    let arguments := written before ++ runCommand :: written after
    (∀ assignment, Arranges (before ++ after) assignment →
      ∃ matched, parser.parse host arguments = .ok matched ∧
        parser.command matched = some runCommand ∧
        parser.config? matched = some (({} : Config).override assignment)) ∧
    (∀ outer inner, Arranges before outer → Arranges after inner →
      ∃ matched, parser.parse host arguments = .ok matched ∧
        parser.command matched = some runCommand ∧
        parser.config? matched = some ((({} : Config).override outer).override inner)) ∧
    (∀ assignment, Arranges before assignment →
      ∃ matched, parser.parse host (written before) = .ok matched ∧
        parser.command matched = none ∧
        parser.config? matched = some (({} : Config).override assignment)) := by
  intro arguments
  have run := @parse_run parser host before after optionRule globalRule commandRule isHost
  have config {arguments matched command options} :=
    @config?_of_gives parser host optionRule defaultRule globalRule isHost arguments matched
      command options
  refine ⟨?_, ?_, ?_⟩
  · intro assignment arranges
    have once := List.nodup_append.mp (List.map_append .. ▸ arranges.once)
    rcases run once.1 once.2.1 with ⟨matched, parsed, gives⟩
    refine ⟨matched, parsed, gives.command_eq, ?_⟩
    have swapped := (arranges.of_perm List.perm_append_comm).lookup_eq
    simp only [List.lookup_append] at swapped
    rw [config parsed gives, Config.override_override, ← swapped]
    rfl
  · intro outer inner arrangesOuter arrangesInner
    rcases run arrangesOuter.once arrangesInner.once with ⟨matched, parsed, gives⟩
    refine ⟨matched, parsed, gives.command_eq, ?_⟩
    rw [config parsed gives, ← arrangesOuter.lookup_eq, ← arrangesInner.lookup_eq]
    rfl
  · intro assignment arranges
    rcases parse_without_run optionRule commandRule isHost arranges.once with
      ⟨matched, parsed, gives⟩
    refine ⟨matched, parsed, gives.command_eq, ?_⟩
    rw [config parsed gives, ← arranges.lookup_eq]
    rfl

/-- Values that read like other options, like `run`, like nothing or like an equals sign. -/
theorem options_override_defaults_of_odd_values :
    (∃ matched, reader.parse plainHost ["--error-prefix=", "--pass-marker=-", "run",
          "--fail-marker=--pass-marker", "--and-keyword=="] = .ok matched ∧
        reader.command matched = some "run" ∧
        reader.config? matched = some ⟨"=", "-", "--pass-marker", ""⟩) ∧
    (∃ matched, reader.parse plainHost ["--pass-marker=--fail-marker", "--and-keyword=", "run",
          "--error-prefix=a=b", "--and-keyword=run"] = .ok matched ∧
        reader.command matched = some "run" ∧
        reader.config? matched = some ⟨"run", "--fail-marker", "fail", "a=b"⟩) ∧
    (∃ matched, reader.parse plainHost ["--and-keyword=run"] = .ok matched ∧
        reader.command matched = none ∧
        reader.config? matched = some ⟨"run", "pass", "fail", "error:"⟩) := by
  have isHost : plainHost.IsHost := by
    constructor
    · intro setting
      cases setting <;> decide
    · exact ⟨_, List.mem_cons_self .., rfl⟩
  have overrides := options_override_defaults reader_optionRule reader_defaultRule
    reader_globalRule reader_commandRule isHost
  refine ⟨?_, ?_, ?_⟩
  · exact (overrides [(.errorPrefix, ""), (.passMarker, "-")]
      [(.failMarker, "--pass-marker"), (.andKeyword, "=")]).1 _ (.of_once (by decide))
  · exact (overrides [(.passMarker, "--fail-marker"), (.andKeyword, "")]
      [(.errorPrefix, "a=b"), (.andKeyword, "run")]).2.1 _ _
      (.of_once (by decide)) (.of_once (by decide))
  · exact (overrides [(.andKeyword, "run")] []).2.2 _ (.of_once (by decide))

end

end CommandLine

end Acceptance
