/-
This file holds the command line of the program: its commands, and the options that may
stand before or after the name of a command.
-/

import Declarations.Command.Grammar
import Declarations.Config.Basic

namespace Declarations

open CommandLine

/-- What the program is asked to do. -/
inductive Command where
  | build (inputs : List Path)
  | snapshot (inputs : List Path) (output : Option Path)
  | load (snapshot : Path) (previous : List Path)
  | docstrings (file : Path) (module : String)
  | lookup (file : Path)
  | version
deriving DecidableEq, Repr, Inhabited

/-- A command, and what is said about the configuration. -/
structure Invocation where
  /-- The file that holds the configuration. -/
  config : Path
  change : ConfigChange
  verbose : Bool
  command : Command
deriving DecidableEq, Repr, Inhabited

/-- The paths that a command names. -/
def Command.paths : Command → List Path
  | .build inputs => inputs
  | .snapshot inputs output => inputs ++ output.toList
  | .load file previous => file :: previous
  | .docstrings file _ => [file]
  | .lookup file => [file]
  | .version => []

namespace Invocation

/-! ### Grammar -/

/-- The options that may stand everywhere. -/
def commonOptions : List OptionRule :=
  [⟨"config", none, .value .path false⟩, ⟨"cache-dir", none, .value .path false⟩,
    ⟨"incremental", none, .flag⟩, ⟨"strict-optional", none, .flag⟩,
    ⟨"follow-imports", none, .value .policy false⟩, ⟨"no-docstrings", none, .flag⟩,
    ⟨"verbose", some 'v', .flag⟩, ⟨"help", some 'h', .help⟩]

/-- What may stand before the name of a command. -/
def grammar : Grammar where
  options := commonOptions ++ [⟨"version", some 'V', .version⟩]
  place := none
  commands := ["build", "snapshot", "load", "docstrings", "lookup", "version", "help"]

/-- What may stand after the name of a command. -/
def commandGrammar (command : String) : Grammar :=
  let options : List OptionRule :=
    match command with
    | "snapshot" => [⟨"output", some 'o', .value .path false⟩]
    | "load" => [⟨"previous", none, .value .path true⟩]
    | "docstrings" => [⟨"module", some 'm', .value .text false⟩]
    | _ => []
  let place : Option Slot :=
    match command with
    | "build" | "snapshot" => some ⟨"paths", .path, true⟩
    | "load" => some ⟨"snapshot", .path, false⟩
    | "docstrings" | "lookup" => some ⟨"file", .path, false⟩
    | _ => none
  ⟨commonOptions ++ options, place, []⟩

/-! ### Reading -/

/-- A path that must be given. -/
def requiredPath (scan : Scan) (name : String) : Except UsageError Path :=
  match scan.value? name with
  | some value => .ok ⟨value⟩
  | none => .error .missingArgument

/-- The paths of which one must be given. -/
def requiredPaths (scan : Scan) (name : String) : Except UsageError (List Path) :=
  match scan.values name with
  | [] => .error .missingArgument
  | values => .ok (values.map Path.mk)

/-- The command that words were read for. -/
def commandOf (name : String) (scan : Scan) : Except UsageError Command := do
  match name with
  | "build" => return .build (← requiredPaths scan "paths")
  | "snapshot" =>
    return .snapshot (← requiredPaths scan "paths") ((scan.value? "output").map Path.mk)
  | "load" =>
    return .load (← requiredPath scan "snapshot") ((scan.values "previous").map Path.mk)
  | "docstrings" =>
    let file ← requiredPath scan "file"
    match scan.value? "module" with
    | some module => return .docstrings file module
    | none => throw .missingArgument
  | "lookup" => return .lookup (← requiredPath scan "file")
  | _ => return .version

/-- The answer to a request for help on a command. -/
def help : List String → UsageError
  | [] => .helpWanted
  | [command] => if grammar.commands.contains command then .helpWanted else .unknownCommand
  | _ => .unknownCommand

/-- An invocation from what was read before and after the name of the command. What stands after
it counts more. -/
def ofScans (before after : Scan) (command : Command) : Invocation :=
  let value? (name : String) := (after.value? name).or (before.value? name)
  let has (name : String) := before.has name || after.has name
  { config := ⟨(value? "config").getD "declgraph.toml"⟩
    change :=
      { cacheDir := (value? "cache-dir").map Path.mk
        incremental := has "incremental"
        strictOptional := has "strict-optional"
        followImports := (value? "follow-imports").bind FollowImports.ofWord?
        noDocstrings := has "no-docstrings" }
    verbose := has "verbose"
    command := command }

/-- The invocation of a command line, without the name of the program. -/
def ofWords (words : List String) : Except UsageError Invocation := do
  match ← readWords grammar .start words with
  | (before, none) =>
    let before ← before.settle
    throw (if before.found.isEmpty then .nothingGiven else .noCommand)
  | (before, some (name, rest)) =>
    if name = "help" then throw (help rest)
    let (after, _) ← readWords (commandGrammar name) .start rest
    let after ← after.settle
    let command ← commandOf name after
    return ofScans (← before.settle) after command

end Invocation

end Declarations
