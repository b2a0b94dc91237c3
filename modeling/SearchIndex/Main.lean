/-
# The program

The command line of the library.  The service is one held in memory, without indexes at the start,
so a run shows which calls a command makes and what comes of them.
-/
import SearchIndex.CommandLine.Command

namespace SearchIndex.CommandLine

/-- The names of the variables for fields, each after those of the fields above it. -/
def variableNames (above : String) : List (String × Environment.Shape) → List String
  | [] => []
  | (field, _) :: rest => (above ++ field) :: variableNames above rest

/-- The names of all variables that settings are made from. -/
def allVariables : List String :=
  Environment.settingsFields.flatMap fun (field, shape) =>
    let here := Environment.start ++ field
    here :: shape.fields.flatMap fun (inner, below) =>
      (here ++ "__" ++ inner) ::
        variableNames (here ++ "__" ++ inner ++ "__") below.fields

/-- The variables that are set. -/
def readVariables : List String → IO (Table String)
  | [] => return []
  | name :: rest => do
    let value ← IO.getEnv (name.map Char.toUpper)
    let others ← readVariables rest
    return (value.map fun v => (name, v)).toList ++ others

/-- What stands at a path of the file system. -/
def readFile (path : String) : IO FileState := do
  try
    let content ← IO.FS.readFile path
    return .data ((Json.read? content).getD (.text content))
  catch e =>
    match e with
    | .noFileOrDirectory .. => return .missing
    | _ => return .directory

/-- What stands at each of some paths. -/
def readFiles : List String → IO (Table FileState)
  | [] => return []
  | path :: rest => do
    let state ← readFile path
    let others ← readFiles rest
    return (path, state) :: others

/-- The paths of the files that arguments name. -/
def namedPaths (words : List String) : List String :=
  match Arguments.read words with
  | .error _ => []
  | .ok arguments =>
    let mappings :=
      match arguments.command with
      | .apply _ mappings _ _ => [normalPath mappings]
      | .drop _ => []
    (arguments.config.map normalPath).toList ++ mappings

/-- A record as it is written. -/
def recordText (e : Log.Entry) : String :=
  (Json.object [("event", .text e.text), ("logger", .text e.source.name),
    ("level", .text e.level.name)]).spaced

/-- Prints what a run leaves behind and returns its exit code. -/
def tell : Ending → IO UInt32
  | .stopped code lines => do
    lines.forM fun line => IO.println line
    if code ≠ 0 then IO.eprintln "usage: indexsync [options] (apply | drop) [options]"
    return code.toUInt32
  | .finished report => do
    report.log.forM fun e => IO.println (recordText e)
    report.lines.forM fun line => IO.println line
    report.failure.forM fun message => IO.eprintln ("Error: " ++ message)
    return report.code.toUInt32
  | .escaped failure => do
    IO.eprintln failure.message
    return 1

end SearchIndex.CommandLine

open SearchIndex SearchIndex.CommandLine in
/-- Runs the program. -/
def main (words : List String) : IO UInt32 := do
  let files ← readFiles (namedPaths words)
  let environment ← readVariables allVariables
  let state (path : String) : FileState := (Table.get? files path).getD .missing
  let (ending, _, _) := run words ⟨state, environment⟩ .empty
  tell ending
