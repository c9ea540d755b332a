/-
This file holds the problems that are reported instead of a result, and the failures that
are reported beside it. A problem that concerns one module only is kept as a failure, so
that the other modules are not lost.
-/

import Declarations.Disk.Basic
import Declarations.Glob.Pattern
import Declarations.Json.Reader
import Declarations.Json.Shape
import Declarations.Snapshot.Entry

namespace Declarations

/-- Why a JSON text was not taken. -/
inductive JsonProblem where
  /-- It is not JSON. -/
  | text (error : Json.ReadError)
  /-- It starts with something of another shape, which ends at a line and column. -/
  | shape (error : Json.ShapeError) (line column : Nat)
deriving Repr, Inhabited

/-- Why a configuration was not taken. -/
inductive ConfigFault where
  | unknownPolicy (word : String)
  | noCacheDirectory
  | fineGrainedAlone
  | noOutput
deriving DecidableEq, Repr, Inhabited

/-- Why the text of a configuration was not taken. -/
inductive ConfigTextFault where
  | notToml
  | shape (error : Json.ShapeError)
deriving Repr, Inhabited

/-- Why a file has no declarations. -/
inductive AnalysisFault where
  | syntaxError (line : Nat)
  | outsideImport (module : String)
deriving DecidableEq, Repr, Inhabited

/-- Why an entry of a snapshot is no module. -/
inductive MalformedFault where
  | shape (error : Json.ShapeError)
  | misnamed (name : String)
  | entry (error : EntryError)
  | unnamed
deriving Repr, Inhabited

/-- What may be reported instead of a result. -/
inductive Problem where
  /-- The disk refused; the path stands in the message. -/
  | disk (path : Option Path) (fault : DiskFault)
  | json (problem : JsonProblem)
  | configText (fault : ConfigTextFault)
  | config (fault : ConfigFault)
  | sourceNotFound (path : Path)
  | analysis (path : Path) (fault : AnalysisFault)
  | malformed (module : String) (fault : MalformedFault)
  | cacheCorrupt (path : Path)
  | emptyInput
  | pattern (error : GlobError)
  | notInSnapshot (module : String)
  | notOneModule (path : Path) (count : Nat)
deriving Repr, Inhabited

/-! ### Messages -/

/-- The message for a JSON text. -/
def JsonProblem.message : JsonProblem → String
  | .text error => error.message
  | .shape error line column => s!"{error.message} at line {line} column {column}"

/-- The message for a configuration. -/
def ConfigFault.message : ConfigFault → String
  | .unknownPolicy word => s!"unknown follow_imports value: {word}"
  | .noCacheDirectory => "cache_dir must not be empty"
  | .fineGrainedAlone => "fine_grained_incremental requires incremental"
  | .noOutput => "snapshot output must not be empty"

/-- The message for the text of a configuration. -/
def ConfigTextFault.message : ConfigTextFault → String
  | .notToml => "not a TOML document"
  | .shape error => error.message

/-- The message for a file. -/
def AnalysisFault.message : AnalysisFault → String
  | .syntaxError line => s!"syntax error at line {line}"
  | .outsideImport module => s!"imports '{module}', which is outside the input set"

/-- The message for an entry. -/
def MalformedFault.message : MalformedFault → String
  | .shape error => error.message
  | .misnamed name => s!"entry is named '{name}'"
  | .entry error => error.message
  | .unnamed => "entry has no string `name` field"

namespace Problem

/-- The message for a problem. -/
def message : Problem → String
  | disk (some path) fault => s!"IO error: {path.text}: {fault.message}"
  | disk none fault => s!"IO error: {fault.message}"
  | json problem => s!"JSON error: {problem.message}"
  | configText fault => s!"Failed to parse config file: {fault.message}"
  | config fault => s!"Config validation error: {fault.message}"
  | sourceNotFound path => s!"Source not found: {path.text}"
  | analysis path fault => s!"Analysis failed in {path.text}: {fault.message}"
  | malformed module fault => s!"Malformed snapshot entry '{module}': {fault.message}"
  | cacheCorrupt path => s!"Analyzer cache is corrupt: {path.text}"
  | emptyInput => "No source paths given"
  | pattern error => s!"Glob pattern error: {error.message}"
  | notInSnapshot module => s!"module '{module}' is not in the snapshot"
  | notOneModule path count => s!"{path.text}: expected a single module entry, found {count}"

/-- Whether a problem concerns one file or module only. -/
def isScoped : Problem → Bool
  | sourceNotFound _ | analysis _ _ | malformed _ _ => true
  | _ => false

/-- Whether a problem comes from reading declarations. -/
def isAnalysis : Problem → Bool
  | analysis _ _ => true
  | _ => false

end Problem

/-- A problem that is reported beside the results, with the module and the file it
concerns. -/
structure Failure where
  module : Option String
  path : Option Path
  problem : Problem
deriving Repr, Inhabited

/-- The line that shows a failure. -/
def Failure.text (failure : Failure) : String :=
  match failure.module with
  | some name => s!"{name}: {failure.problem.message}"
  | none => failure.problem.message

end Declarations
