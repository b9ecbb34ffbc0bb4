import CodeMetrics.CommandLine.Spec
import CodeMetrics.Text.Split

/-!
# Reading command lines

The arguments are read one by one. A command collects its options and words until the name of a
command below it is met, which takes all arguments after its name. An option that waits for a value
takes the next argument, unless that begins with a dash.

Values are looked at when the next option or the end shows that they are complete, so an unknown
option is reported before a bad value that stands in front of it.
-/

namespace CodeMetrics

/-- What is complete only when the next option or the end is seen. -/
inductive Pending where
  | nothing
  /-- An option with its value, if that has been seen. -/
  | option (name : String) (kind : ValueKind) (value : Option String)
  | words (values : List String)

/-- What a command has been given. -/
structure Given where
  verbosity : Nat := 0
  flags : List String := []
  values : List (String × String) := []
  words : List String := []

namespace Given

/-- Whether an option with a value has been given. -/
def hasValue (g : Given) (name : String) : Bool := (g.values.lookup name).isSome

/-- Whether any option or word has been given. -/
def isEmpty (g : Given) : Bool :=
  g.verbosity = 0 && g.flags.isEmpty && g.values.isEmpty && g.words.isEmpty

end Given

/-- A command as far as its arguments have been read. -/
structure Progress where
  given : Given := {}
  pending : Pending := .nothing
  /-- The number of words seen. -/
  wordCount : Nat := 0
  /-- Whether `--` has been seen, after which all arguments are words. -/
  wordsOnly : Bool := false

namespace Progress

/-- Whether the next argument may be the value of an option. -/
def awaitsValue (p : Progress) : Bool :=
  match p.pending with
  | .option _ _ none => true
  | _ => false

/-- Gives an option its value. -/
def setValue (g : Given) (name : String) (kind : ValueKind) (value : String) :
    Except UsageError Given :=
  if g.hasValue name then .error .repeatedOption
  else
    match kind.check value with
    | .error e => .error e
    | .ok () => .ok { g with values := g.values ++ [(name, value)] }

/-- **Completes what is pending.** -/
def settle (p : Progress) : Except UsageError Progress :=
  match p.pending with
  | .nothing => .ok p
  | .option _ _ none => .error .invalidValue
  | .option name kind (some value) =>
    match setValue p.given name kind value with
    | .error e => .error e
    | .ok given => .ok { p with given, pending := .nothing }
  | .words values =>
    if values.any String.isEmpty then .error .invalidValue
    else
      let given := { p.given with words := p.given.words ++ values }
      .ok { p with given, pending := .nothing }

/-- The times that an option can be counted. -/
def maxCount : Nat := 255

/-- Takes an option that has no value. -/
def takeSwitch (p : Progress) (o : OptionSpec) : Except UsageError Progress :=
  match p.settle with
  | .error e => .error e
  | .ok p =>
    match o.kind with
    | .flag =>
      if p.given.flags.contains o.name then .error .repeatedOption
      else
        let given := { p.given with flags := p.given.flags ++ [o.name] }
        .ok { p with given }
    | .count =>
      let given := { p.given with verbosity := min maxCount (p.given.verbosity + 1) }
      .ok { p with given }
    | .help => .error .helpRequested
    | .version => .error .versionRequested
    | .value _ => .error .invalidValue

/-- Takes an option that has a value, which may be part of the same argument. -/
def takeOption (p : Progress) (name : String) (kind : ValueKind) (value : Option String) :
    Except UsageError Progress :=
  match p.settle with
  | .error e => .error e
  | .ok p =>
    match value with
    | none => .ok { p with pending := .option name kind none }
    | some value =>
      match setValue p.given name kind value with
      | .error e => .error e
      | .ok given => .ok { p with given }

/-- Takes an argument with two dashes, given without them. -/
def takeLong (spec : CommandSpec) (p : Progress) (cs : List Char) : Except UsageError Progress :=
  let (name, value) := match Text.splitFirst? ['='] cs with
    | some (name, value) => (String.ofList name, some (String.ofList value))
    | none => (String.ofList cs, none)
  match spec.named? name with
  | none => .error .unknownArgument
  | some o =>
    match o.kind with
    | .value kind => p.takeOption o.name kind value
    | _ => if value.isSome then .error .tooManyValues else p.takeSwitch o

/-- The value behind a letter in the same argument; an equals sign in front of it is dropped. -/
def attached : List Char → Option String
  | [] => none
  | '=' :: cs => some (String.ofList cs)
  | cs => some (String.ofList cs)

/-- Takes the letters of an argument with one dash. The letter of an option with a value is the last
one, and what follows it is the value. -/
def takeLetters (spec : CommandSpec) (p : Progress) : List Char → Except UsageError Progress
  | [] => .ok p
  | c :: cs =>
    match spec.lettered? c with
    | none => .error .unknownArgument
    | some o =>
      match o.kind with
      | .value kind => p.takeOption o.name kind (attached cs)
      | _ =>
        match p.takeSwitch o with
        | .error e => .error e
        | .ok p => takeLetters spec p cs

/-- What is wrong with a word that a command has no place for. -/
def misplaced (spec : CommandSpec) (p : Progress) (word : String) : UsageError :=
  if spec.commands.isEmpty then .unknownArgument
  else if p.wordsOnly && (spec.command? word).isSome then .unknownArgument
  else .unknownSubcommand

/-- Takes a word. -/
def takeWord (spec : CommandSpec) (p : Progress) (word : String) : Except UsageError Progress :=
  if spec.words.admits p.wordCount then
    match p.pending with
    | .words values =>
      .ok { p with pending := .words (values ++ [word]), wordCount := p.wordCount + 1 }
    | _ =>
      match p.settle with
      | .error e => .error e
      | .ok p => .ok { p with pending := .words [word], wordCount := p.wordCount + 1 }
  else .error (misplaced spec p word)

/-- **Takes an argument** that is not the name of a command. -/
def take (spec : CommandSpec) (p : Progress) (argument : String) : Except UsageError Progress :=
  if p.wordsOnly then takeWord spec p argument
  else
    match argument.toList, p.pending with
    | ['-', '-'], _ => .ok { p with wordsOnly := true }
    | '-' :: '-' :: cs, _ => takeLong spec p cs
    | '-' :: c :: cs, _ => takeLetters spec p (c :: cs)
    | _, .option name kind none => .ok { p with pending := .option name kind (some argument) }
    | _, _ => takeWord spec p argument

/-- The command that an argument begins, if it is the name of one. -/
def begins? (spec : CommandSpec) (p : Progress) (argument : String) : Option CommandSpec :=
  if p.wordsOnly || p.awaitsValue then none else spec.command? argument

/-- **Completes a command.** `configVariable` stands in for the option `--config`. -/
def finish (spec : CommandSpec) (configVariable : Option String) (hasCommand : Bool)
    (p : Progress) : Except UsageError Given :=
  match p.settle with
  | .error e => .error e
  | .ok p =>
    let fromVariable := if p.given.hasValue "config" then none else configVariable
    if fromVariable = some "" then .error .invalidValue
    else if !hasCommand && !spec.commands.isEmpty then
      .error (if p.given.isEmpty && fromVariable.isNone then .nothingAsked else .missingSubcommand)
    else if spec.words != .none && p.given.words.isEmpty then .error .missingArgument
    else .ok p.given

end Progress

/-- Shows the help of the command that names lead to. -/
def helpFor (spec : CommandSpec) : List String → UsageError
  | [] => .helpRequested
  | name :: names =>
    match spec.command? name with
    | none => .unknownSubcommand
    | some below => helpFor below names

/-- Reads the arguments of a command: what it and the commands below it have been given, each with
its name in front. -/
def readCommand (configVariable : Option String) (name : String) (spec : CommandSpec)
    (p : Progress) : List String → Except UsageError (List (String × Given))
  | [] =>
    match p.finish spec configVariable false with
    | .error e => .error e
    | .ok given => .ok [(name, given)]
  | argument :: rest =>
    match p.begins? spec argument with
    | none =>
      match p.take spec argument with
      | .error e => .error e
      | .ok p => readCommand configVariable name spec p rest
    | some below =>
      if argument = CommandSpec.helpName then .error (helpFor spec rest)
      else
        match readCommand configVariable argument below {} rest with
        | .error e => .error e
        | .ok inner =>
          match p.finish spec configVariable true with
          | .error e => .error e
          | .ok given => .ok ((name, given) :: inner)

namespace Invocation

/-- The format of the output that was asked for. -/
def formatOf (g : Given) : OutputFormat :=
  ((g.values.lookup "format").bind OutputFormat.ofName?).getD .text

/-- What is to be done, from the names of commands and what the last one has been given. -/
def commandOf? : List String → Given → Option Command
  | ["analyze"], g =>
    some (.analyze g.words (formatOf g) ((g.values.lookup "long-method-threshold").bind decimalWord?)
      (g.flags.contains "count-logical-operators"))
  | ["golden", "check"], g => g.words.head?.map fun directory => .check directory (formatOf g)
  | ["golden", "bless"], g => g.words.head?.map .bless
  | _, _ => none

/-- The last of the counts that is not zero. -/
def innermostCount (levels : List Given) : Nat :=
  levels.foldl (fun n g => if g.verbosity = 0 then n else g.verbosity) 0

/-- The last configuration that was named. -/
def innermostConfig (levels : List Given) : Option String :=
  levels.foldl (fun c g => (g.values.lookup "config").orElse fun _ => c) none

/-- **Reads a command line.** An option of every command counts where it was given last, counting
from the outer command to the inner one; `configVariable` is the configuration file that the
environment names. -/
def ofArguments (configVariable : Option String) (arguments : List String) :
    Except UsageError Invocation :=
  match readCommand configVariable "" CommandSpec.top {} arguments with
  | .error e => .error e
  | .ok levels =>
    let given := levels.map Prod.snd
    match commandOf? (levels.tail.map Prod.fst) (given.getLastD {}) with
    | none => .error .missingSubcommand
    | some command =>
      .ok { verbosity := innermostCount given
            configPath := (innermostConfig given).orElse fun _ => configVariable
            noColor := given.any fun g => g.flags.contains "no-color"
            command }

end Invocation

end CodeMetrics
