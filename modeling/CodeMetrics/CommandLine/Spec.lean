import CodeMetrics.CommandLine

/-!
# What a command accepts

Every command has options, words without a dash, and commands below it. `CommandSpec.top` lists all
of them. Three options are accepted by every command.
-/

namespace CodeMetrics

/-! ### Values -/

/-- The number that a text stands for: decimal digits, with a plus sign in front if one is given. -/
def decimalWord? (s : String) : Option UInt64 :=
  let digits := match s.toList with
    | '+' :: cs => cs
    | cs => cs
  if digits.isEmpty || !digits.all Char.isDigit then none
  else
    let n := digits.foldl (fun n c => n * 10 + (c.toNat - '0'.toNat)) 0
    if n < UInt64.size then some (UInt64.ofNat n) else none

/-- What the value of an option is. -/
inductive ValueKind where
  | path
  | format
  | number
  deriving DecidableEq

/-- Accepts a value, or says what is wrong with it. -/
def ValueKind.check (value : String) : ValueKind → Except UsageError Unit
  | path => if value.isEmpty then .error .invalidValue else .ok ()
  | format => if (OutputFormat.ofName? value).isNone then .error .invalidValue else .ok ()
  | number => if (decimalWord? value).isNone then .error .malformedValue else .ok ()

/-- What an option does. -/
inductive OptionKind where
  /-- It has a value. -/
  | value (kind : ValueKind)
  /-- It may be given once. -/
  | flag
  /-- It may be given several times, and the times are counted. -/
  | count
  | help
  | version
  deriving DecidableEq

/-- An option. Its long name identifies it. -/
structure OptionSpec where
  name : String
  letter : Option Char := none
  kind : OptionKind
  deriving DecidableEq

/-- The words without a dash that a command takes. -/
inductive WordSpec where
  | none
  | one
  /-- At least one. -/
  | many
  deriving DecidableEq

/-- The number of words that a command takes at most. -/
def WordSpec.admits (n : Nat) : WordSpec → Bool
  | none => false
  | one => n = 0
  | many => true

/-- What a command accepts. A command with others below it needs one of them. -/
inductive CommandSpec where
  | mk (options : List OptionSpec) (words : WordSpec) (commands : List (String × CommandSpec))

namespace CommandSpec

/-- The options of a command. -/
def options : CommandSpec → List OptionSpec
  | mk options _ _ => options

/-- The words that a command takes. -/
def words : CommandSpec → WordSpec
  | mk _ words _ => words

/-- The commands below a command. -/
def commands : CommandSpec → List (String × CommandSpec)
  | mk _ _ commands => commands

/-- The option with a long name. -/
def named? (spec : CommandSpec) (name : String) : Option OptionSpec :=
  spec.options.find? fun o => o.name = name

/-- The option with a letter. -/
def lettered? (spec : CommandSpec) (letter : Char) : Option OptionSpec :=
  spec.options.find? fun o => o.letter = some letter

/-- The options of every command. -/
def commonOptions : List OptionSpec :=
  [{ name := "verbose", letter := some 'v', kind := .count },
    { name := "config", letter := some 'c', kind := .value .path },
    { name := "no-color", kind := .flag },
    { name := "help", letter := some 'h', kind := .help }]

/-- The option for the format of the output. -/
def formatOption : OptionSpec := { name := "format", letter := some 'f', kind := .value .format }

/-- The command that computes metrics. -/
def analyze : CommandSpec :=
  .mk ([formatOption,
      { name := "long-method-threshold", kind := .value .number },
      { name := "count-logical-operators", kind := .flag }] ++ commonOptions)
    .many []

/-- The commands for directories of fixtures. -/
def golden : CommandSpec :=
  .mk commonOptions .none
    [("check", .mk (formatOption :: commonOptions) .one []), ("bless", .mk commonOptions .one [])]

/-- **Everything that is accepted.** -/
def top : CommandSpec :=
  .mk ({ name := "version", letter := some 'V', kind := .version } :: commonOptions) .none
    [("analyze", analyze), ("golden", golden)]

/-- The name of the command, below every command that has others below it, that shows help. -/
def helpName : String := "help"

/-- The command below a command with a given name. -/
def command? (spec : CommandSpec) (name : String) : Option CommandSpec :=
  match spec.commands.lookup name with
  | some found => some found
  | none => if name = helpName && !spec.commands.isEmpty then some (.mk [] .many []) else none

end CommandSpec

end CodeMetrics
