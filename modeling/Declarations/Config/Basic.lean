/-
This file holds the configuration: the options of a build and how snapshots are written. It
is read from a TOML document, and the command line may change it.
-/

import Declarations.Build.Builder
import Declarations.Build.OptionsJson
import Declarations.Toml.Reader

namespace Declarations

open Json (Shape ShapeError)

/-- How snapshots are written. -/
structure SnapshotConfig where
  /-- Whether every entry has a line of its own. -/
  indented : Bool
  /-- The file that is written when none is named. -/
  output : Path
deriving DecidableEq, Repr

namespace SnapshotConfig

/-- How snapshots are written when nothing is said about it. -/
def default : SnapshotConfig where
  indented := true
  output := ⟨"declgraph-snapshot.json"⟩

instance : Inhabited SnapshotConfig := ⟨default⟩

/-- Puts a value into the place of its name. -/
def fill (config : SnapshotConfig) (field : String) : Shape SnapshotConfig := fun value =>
  match field with
  | "pretty" => return { config with indented := ← Shape.bool value }
  | "output" => return { config with output := ⟨← Shape.pathText value⟩ }
  | _ => return config

/-- How snapshots are written, as JSON. -/
def toJson (config : SnapshotConfig) : Json :=
  .object [("pretty", .bool config.indented), ("output", .text config.output.text)]

end SnapshotConfig

/-- The configuration. -/
structure Config where
  build : BuildOptions
  snapshot : SnapshotConfig
deriving DecidableEq, Repr

/-- What the command line says about the configuration. -/
structure ConfigChange where
  cacheDir : Option Path := none
  incremental : Bool := false
  strictOptional : Bool := false
  followImports : Option FollowImports := none
  noDocstrings : Bool := false
deriving DecidableEq, Repr, Inhabited

namespace Config

/-- The configuration when nothing is said about it. -/
def default : Config :=
  ⟨.default, .default⟩

instance : Inhabited Config := ⟨default⟩

/-- A configuration as JSON. -/
def toJson (config : Config) : Json :=
  .object [("build", config.build.toJson), ("snapshot", config.snapshot.toJson)]

/-- Whether a configuration can be used. -/
def validate (config : Config) : Except Problem Unit := do
  config.build.validate
  if config.snapshot.output.text.isEmpty then throw (.config .noOutput)

/-- The configuration with what the command line says. -/
def change (config : Config) (change : ConfigChange) : Config :=
  { config with
    build :=
      { config.build with
        cacheDir := change.cacheDir.getD config.build.cacheDir
        incremental := config.build.incremental || change.incremental
        strictOptional := config.build.strictOptional || change.strictOptional
        followImports := change.followImports.getD config.build.followImports
        includeDocstrings := config.build.includeDocstrings && !change.noDocstrings } }

/-! ### Reading -/

/-- An option as JSON has it. In TOML the word for a policy may also name an empty table or an
empty list. -/
def optionValue (field : String) : Json → Json
  | .object [(word, .list [])] =>
    if field = "follow_imports" then .object [(word, .object [])]
    else .object [(word, .list [])]
  | other => other

/-- Puts an option into the place of its name. -/
def fillBuild (options : BuildOptions) (field : String) : Shape BuildOptions := fun value =>
  match field with
  | "follow_imports" =>
    return { options with
      followImports := ← Shape.word .aside FollowImports.known (optionValue field value) }
  | _ => options.fill field value

/-- A table with known names, which may be given as the list of its values. -/
def table {σ : Type} (name : String) (fields : List String) (start : σ)
    (fill : σ → String → Shape σ) : Shape σ := fun value => do
  let value :=
    match value with
    | .list items => .list (items.take fields.length)
    | other => other
  return (← Shape.record name .direct fields start fill value).found

/-- Puts a table into the place of its name. -/
def fill (config : Config) (field : String) : Shape Config := fun value =>
  match field with
  | "build" =>
    return { config with
      build := ← table "struct BuildOptions" BuildOptions.fieldNames .default fillBuild value }
  | "snapshot" =>
    return { config with
      snapshot := ← table "struct SnapshotConfig" ["pretty", "output"] .default
        SnapshotConfig.fill value }
  | _ => return config

/-- The configuration of a TOML document. -/
def ofText (text : String) : Except ConfigTextFault Config :=
  match Toml.read? text with
  | none => .error .notToml
  | some fields =>
    match table "struct Config" ["build", "snapshot"] default fill (.object fields) with
    | .ok config => .ok config
    | .error error => .error (.shape error)

/-- The configuration in a file, if it can be used. -/
def load (disk : Disk) (path : Path) : Except Problem Config :=
  match disk.readText path with
  | .error fault => .error (.disk none fault)
  | .ok text =>
    match ofText text with
    | .error fault => .error (.configText fault)
    | .ok config => do
      config.validate
      return config

/-- The configuration in a file, or the one without a file when that cannot be used. -/
def loadOrDefault (disk : Disk) (path : Path) : Config :=
  match load disk path with
  | .ok config => config
  | .error _ => default

end Config

end Declarations
