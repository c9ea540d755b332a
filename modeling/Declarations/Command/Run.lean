/-
This file runs the program: it takes a disk and the words of a command line, and gives
the disk after the run with what the program says and the code it ends with.
-/

import Declarations.Command.Invocation
import Declarations.Docstring.OfFile
import Declarations.Snapshot.Load
import Declarations.Snapshot.Save

namespace Declarations

/-- A disk, and what was said so far. -/
structure Console where
  disk : Disk
  lines : List String
deriving Inhabited

/-- What a run of the program leaves behind. -/
structure RunResult where
  code : Nat
  output : String
  errors : String
deriving DecidableEq, Repr, Inhabited

namespace Console

/-- Says lines. -/
def say (lines : List String) : Work Console Unit :=
  modify fun console => { console with lines := console.lines ++ lines }

/-- Work on the disk. -/
def onDisk {α : Type} (work : Work Disk α) : Work Console α := fun console =>
  let (result, disk) := work.run console.disk
  (result, { console with disk := disk })

/-- What a look at the disk gives. -/
def look {α : Type} (find : Disk → Except Problem α) : Work Console α :=
  onDisk (Work.look find)

end Console

namespace Command

/-! ### Summaries -/

/-- How many entries of a list are shown. -/
def shownLimit : Nat := 10

/-- A list with its title, when it has entries. -/
def listing (title : String) (entries : List String) : List String :=
  if entries.isEmpty then []
  else
    let hidden := entries.length - shownLimit
    ["", s!"{title} ({entries.length}):"] ++
      (entries.take shownLimit).map (fun entry => "  " ++ entry) ++
      if hidden = 0 then [] else [s!"  ... and {hidden} more"]

/-- What is said about failures and unresolved references. -/
def remarks (failures : List Failure) (unresolved : List UnresolvedReference) : List String :=
  listing "Failures" (failures.map Failure.text) ++
    listing "Unresolved references" (unresolved.map UnresolvedReference.text)

/-- What is said about a build. -/
def buildSummary (result : BuildResult) : List String :=
  s!"Built {result.modules.size} modules ({result.cached} from cache)" ::
    remarks result.failures result.unresolved

/-- What is said about loading a file. -/
def loadSummary (path : Path) (result : LoadResult) : List String :=
  s!"Loaded {result.modules.size} modules from {path.text}" ::
    remarks result.failures result.unresolved

/-! ### Running -/

/-- The name and the version of the program. -/
def versionLine : String := "declgraph 0.1.0"

/-- Loads files, each after those before it. -/
def loadAll (paths : List Path) : Work Console ModuleSet :=
  paths.foldlM (fun loaded path => do
    let result ← Console.look fun disk => Snapshot.loadFile disk path loaded
    if !result.isClean then Console.say (loadSummary path result)
    return loaded.merge result.modules) NameMap.empty

/-- Runs a command. -/
def run (config : Config) : Command → Work Console Unit
  | build inputs => do
    let result ← Console.onDisk (Build.run .standard config.build inputs)
    Console.say (buildSummary result)
  | snapshot inputs output => do
    let output := output.getD config.snapshot.output
    let result ← Console.onDisk
      (Snapshot.writeBuild config.build inputs output config.snapshot.indented)
    Console.say (buildSummary result ++ [s!"Snapshot written to: {output.text}"])
  | load path previous => do
    let loaded ← loadAll previous
    let result ← Console.look fun disk => Snapshot.loadFile disk path loaded
    Console.say (loadSummary path result)
  | docstrings file module => do
    let found ← Console.look fun disk => Docstring.ofFile disk file module
    let fields := found.entries.map fun (name, text) => (name, Json.text text)
    Console.say [(Json.object fields).pretty]
  | lookup file => do
    match ← Console.onDisk (Build.lookup .standard config.build file) with
    | some module => Console.say [(Snapshot.ofModule module).render true]
    | none => Console.say [s!"not found: {file.text}"]
  | version => Console.say [versionLine]

end Command

namespace Invocation

/-- Runs an invocation. -/
def run (invocation : Invocation) : Work Console Unit := do
  let disk := (← get).disk
  let config := (Config.loadOrDefault disk invocation.config).change invocation.change
  Console.look fun _ => config.validate
  invocation.command.run config

end Invocation

namespace CommandLine

/-- How the program is called. -/
def usage : String :=
  "Usage: declgraph [OPTIONS] <COMMAND>\n\nCommands: build, snapshot, load, docstrings, lookup, " ++
    "version, help\n"

/-- What the program says to a command line that it does not run. -/
def UsageError.result : UsageError → RunResult
  | .helpWanted => ⟨0, usage, ""⟩
  | .versionWanted => ⟨0, Command.versionLine ++ "\n", ""⟩
  | _ => ⟨2, "", usage⟩

/-- Lines as a text. -/
def unlines (lines : List String) : String :=
  String.join (lines.map fun line => line ++ "\n")

/-- Runs the program on a disk. -/
def run (words : List String) (disk : Disk) : RunResult × Disk :=
  match Invocation.ofWords words with
  | .error error => (error.result, disk)
  | .ok invocation =>
    match invocation.run.run ⟨disk, []⟩ with
    | (.ok (), console) => (⟨0, unlines console.lines, ""⟩, console.disk)
    | (.error problem, console) =>
      (⟨1, unlines console.lines, unlines ["Error: " ++ problem.message]⟩, console.disk)

end CommandLine

end Declarations
