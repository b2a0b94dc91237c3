/-
# Command line arguments

A command line holds options, the name of a command, and the options of that command.  A long option
may be shortened as long as it stays unique, its value follows it or an equals sign; the value of a
short option may also follow its letter at once.
-/
import SearchIndex.Number.Numeral
import SearchIndex.Schema.Strategy

namespace SearchIndex.CommandLine

/-! ## Options -/

/-- What an option does. -/
inductive OptionKind where
  /-- It takes a value, any or one of some. -/
  | value (choices : Option (List String))
  /-- It says yes. -/
  | flag
  /-- It ends with the help text. -/
  | help
  /-- It ends with the version. -/
  | version

/-- An option with its names, the long one first. -/
structure OptionRule where
  /-- The names. -/
  names : List String
  /-- What it does. -/
  kind : OptionKind

namespace OptionRule

/-- The long name, under which its value is kept. -/
def key (r : OptionRule) : String := r.names.headD ""

end OptionRule

/-- The option that explains the others. -/
def helpRule : OptionRule := ⟨["--help", "-h"], .help⟩

/-- The levels that can be asked for. -/
def levelNames : List String := ["debug", "info", "warning", "error"]

/-- The options that come before the command. -/
def mainRules : List OptionRule :=
  [helpRule, ⟨["--config", "-c"], .value none⟩, ⟨["--log-level"], .value (some levelNames)⟩,
    ⟨["--version"], .version⟩]

/-- The strategies that can be asked for.  The one that deletes the index in the end is left out, as
the command destroys its manager right after binding. -/
def strategyNames : List String :=
  (Strategy.all.filter fun s => s.onDestroy.isEmpty).map Strategy.name

/-- The option that names the index. -/
def indexRule : OptionRule := ⟨["--index", "-i"], .value none⟩

/-- The options of the command that applies mappings. -/
def applyRules : List OptionRule :=
  [helpRule, indexRule, ⟨["--mappings", "-m"], .value none⟩,
    ⟨["--strategy", "-s"], .value (some strategyNames)⟩, ⟨["--multitenancy"], .flag⟩]

/-- The options of the command that drops an index. -/
def dropRules : List OptionRule := [helpRule, indexRule]

/-! ## Words -/

/-- What a word of the command line is. -/
inductive Word where
  /-- A plain word. -/
  | plain
  /-- An option, with the value that the same word gives to it; the last part tells whether that
  value follows the letter of the option. -/
  | option (rule : OptionRule) (value : Option String) (attached : Bool)
  /-- The start of several options. -/
  | ambiguous
  /-- An option that there is not. -/
  | unknown

/-- The option of a name. -/
def named? (rules : List OptionRule) (name : String) : Option OptionRule :=
  rules.find? fun r => name ∈ r.names

/-- The part of a word before its first equals sign, and the part after it if there is one. -/
def splitValue (cs : List Char) : List Char × Option String :=
  match cs.dropWhile (· ≠ '=') with
  | _ :: value => (cs.takeWhile (· ≠ '='), some (String.ofList value))
  | [] => (cs, none)

/-- A word that looks like a negative number. -/
def isNegative (cs : List Char) : Bool :=
  match cs with
  | '-' :: rest =>
    let whole := rest.takeWhile Char.isDigit
    match rest.dropWhile Char.isDigit with
    | [] => !whole.isEmpty
    | '.' :: fraction => !fraction.isEmpty && fraction.all Char.isDigit
    | _ => false
  | _ => false

/-- The options whose long name starts with the given characters. -/
def startingWith (rules : List OptionRule) (start : List Char) : List OptionRule :=
  rules.filter fun r => start.isPrefixOf r.key.toList

/-- What a word is that is no option by itself. -/
def wordOfStart (rules : List OptionRule) (cs : List Char) : Word :=
  let other := if isNegative cs || ' ' ∈ cs then Word.plain else .unknown
  match cs with
  | '-' :: '-' :: _ =>
    let (start, value) := splitValue cs
    match startingWith rules start with
    | [] => other
    | [r] => .option r value false
    | _ => .ambiguous
  | '-' :: letter :: tail =>
    match named? rules (String.ofList ['-', letter]) with
    | some r => .option r (some (String.ofList tail)) true
    | none => other
  | _ => other

/-- What a word is. -/
def wordOf (rules : List OptionRule) (word : String) : Word :=
  match word.toList with
  | '-' :: c :: cs =>
    match named? rules word with
    | some r => .option r none false
    | none =>
      let (name, value) := splitValue ('-' :: c :: cs)
      match value, named? rules (String.ofList name) with
      | some value, some r => .option r (some value) false
      | _, _ => wordOfStart rules ('-' :: c :: cs)
  | _ => .plain

/-! ## Reading -/

/-- Why the reading of a command line ends early. -/
inductive Stop where
  /-- The command line is wrong. -/
  | wrong
  /-- It asks for the help text of the program, or of a command. -/
  | help (ofCommand : Bool)
  /-- It asks for the version. -/
  | version
deriving DecidableEq

/-- The options read so far. -/
structure Found where
  /-- The values, by long name. -/
  values : Table String
  /-- Whether something was met that is not known. -/
  strange : Bool

namespace Found

/-- Nothing. -/
def none : Found := ⟨[], false⟩

/-- Takes up a value, if it is one of the choices. -/
def take (f : Found) (rule : OptionRule) (choices : Option (List String)) (value : String) :
    Except Stop Found :=
  if choices.all (value ∈ ·) then .ok { f with values := Table.set f.values rule.key value }
  else .error .wrong

end Found

/-- Whether a word may be the value of the option before it. -/
def isValue (rules : List OptionRule) (word : String) : Bool :=
  word ≠ "--" && match wordOf rules word with
    | .plain => true
    | _ => false

/-- What becomes of an option without its value in the same word that needs none. -/
def Found.mark (f : Found) (ofCommand : Bool) (rule : OptionRule) : Except Stop Found :=
  match rule.kind with
  | .help => .error (.help ofCommand)
  | .version => .error .version
  | .flag => .ok { f with values := Table.set f.values rule.key "" }
  | .value _ => .error .wrong

/-- What becomes of an option with a value in the same word. -/
def Found.give (f : Found) (rules : List OptionRule) (ofCommand : Bool) (rule : OptionRule)
    (value : String) (attached : Bool) : Except Stop Found :=
  match rule.kind with
  | .value choices => f.take rule choices value
  | .help =>
    let next := String.ofList ('-' :: value.toList.take 1)
    if attached && (named? rules next).isSome then .error (.help ofCommand) else .error .wrong
  | _ => .error .wrong

/-- Reads options.  `commands` says whether a plain word ends them; the words from there on are the
second part of the result. -/
def readOptions (rules : List OptionRule) (commands : Bool) :
    Found → List String → Except Stop (Found × List String)
  | found, [] => .ok (found, [])
  | found, word :: rest =>
    if word = "--" then
      if commands then .error .wrong else .ok ({ found with strange := true }, [])
    else
      match wordOf rules word with
      | .plain =>
        if commands then .ok (found, word :: rest)
        else readOptions rules commands { found with strange := true } rest
      | .unknown => readOptions rules commands { found with strange := true } rest
      | .ambiguous => .error .wrong
      | .option rule (some value) attached => do
        readOptions rules commands (← found.give rules (!commands) rule value attached) rest
      | .option rule Option.none _ =>
        match rule.kind, rest with
        | .value choices, value :: rest =>
          if isValue rules value then do
            readOptions rules commands (← found.take rule choices value) rest
          else .error .wrong
        | _, rest => do readOptions rules commands (← found.mark (!commands) rule) rest

/-! ## Arguments -/

/-- What is to be done. -/
inductive Command where
  /-- The mappings of a file are applied to an index. -/
  | apply (index mappings : String) (strategy : Option Strategy) (multitenancy : Bool)
  /-- An index is dropped. -/
  | drop (index : String)
deriving DecidableEq

/-- The arguments of a command line. -/
structure Arguments where
  /-- The settings file. -/
  config : Option String
  /-- The level of the log, if it is not that of the settings. -/
  logLevel : Option String
  /-- What is to be done. -/
  command : Command
deriving DecidableEq

/-- The value of an option that has to be there. -/
def Found.need (f : Found) (key : String) : Except Stop String :=
  match Table.get? f.values key with
  | some value => .ok value
  | Option.none => .error .wrong

/-- Reads the options of a command and makes the command of them. -/
def readCommand (rules : List OptionRule) (words : List String)
    (make : Found → Except Stop Command) : Except Stop Command := do
  let (found, _) ← readOptions rules false .none words
  let command ← make found
  if found.strange then throw .wrong
  return command

/-- Reads a command with its options. -/
def Command.read : List String → Except Stop Command
  | "apply" :: words => readCommand applyRules words fun found => do
    let index ← found.need "--index"
    let mappings ← found.need "--mappings"
    return .apply index mappings
      ((Table.get? found.values "--strategy").bind Strategy.ofName?)
      (Table.has found.values "--multitenancy")
  | "drop" :: words => readCommand dropRules words fun found => do
    return .drop (← found.need "--index")
  | _ => .error .wrong

/-- Reads the arguments of a command line. -/
def Arguments.read (words : List String) : Except Stop Arguments := do
  let (found, words) ← readOptions mainRules true .none words
  let command ← Command.read words
  if found.strange then throw .wrong
  return ⟨Table.get? found.values "--config", Table.get? found.values "--log-level", command⟩

end SearchIndex.CommandLine
