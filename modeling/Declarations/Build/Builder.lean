/-
This file builds declaration graphs: it collects the sources, reads them, and links the
modules with each other. What reads the sources is given, and may report that its cache is
corrupt; the cache is then dropped and the sources are read once more.
-/

import Declarations.Build.Analysis
import Declarations.Linking.Link

namespace Declarations

/-- What reads sources. It keeps a state, which holds the disk. -/
structure Analyzer (σ : Type) where
  disk : σ → Disk
  analyze : List BuildSource → BuildOptions → Work σ Analysis
  /-- Drops what is cached in a directory. -/
  dropCache : Path → Work σ Unit

/-- The analyzer that keeps nothing but the disk. -/
def Analyzer.standard : Analyzer Disk where
  disk := id
  analyze := Analysis.run
  dropCache := fun directory => Work.onDisk (Cache.remove directory)

/-- The modules of a build, linked. -/
structure BuildResult where
  modules : ModuleSet
  failures : List Failure
  unresolved : List UnresolvedReference
  /-- How many modules come from the cache. -/
  cached : Nat
deriving Inhabited

/-- Whether nothing failed and every reference was resolved. -/
def BuildResult.isClean (result : BuildResult) : Bool :=
  result.failures.isEmpty && result.unresolved.isEmpty

/-- Whether options can be built with. -/
def BuildOptions.validate (options : BuildOptions) : Except Problem Unit :=
  if options.cacheDir.text.isEmpty then .error (.config .noCacheDirectory)
  else if options.fineGrained && !options.incremental then .error (.config .fineGrainedAlone)
  else
    match options.exclude.mapM GlobPattern.parse with
    | .ok _ => .ok ()
    | .error error => .error (.pattern error)

/-- The module that was read from a path. -/
def ModuleSet.ofPath? (modules : ModuleSet) (disk : Disk) (path : Path) : Option Module :=
  let wanted := disk.absolute path
  modules.values.find? fun module => (disk.absolute module.path).same wanted

namespace Build

variable {σ : Type}

/-- Reads sources, once more when the cache turns out to be corrupt. -/
def analyze (analyzer : Analyzer σ) (options : BuildOptions) (sources : List BuildSource) :
    Work σ Analysis :=
  tryCatch (analyzer.analyze sources options) fun
    | .cacheCorrupt _ => do
      analyzer.dropCache options.cacheDir
      analyzer.analyze sources options
    | problem => throw problem

/-- The first problem with reading declarations, where the policy does not pass over it. -/
def firstProblem? (policy : FollowImports) (failures : List Failure) : Option Problem :=
  if policy == .silent then none
  else (failures.find? fun failure => failure.problem.isAnalysis).map (·.problem)

/-- Builds the graph of some files and directories. -/
def run (analyzer : Analyzer σ) (options : BuildOptions) (inputs : List Path) :
    Work σ BuildResult := do
  if inputs.isEmpty then throw .emptyInput
  Work.look fun _ => options.validate
  let (sources, missing) ←
    Work.look fun state => BuildSource.collect (analyzer.disk state) options.exclude inputs
  let analysis ← if sources.isEmpty then pure .empty else analyze analyzer options sources
  let failures := missing ++ analysis.failures
  match firstProblem? options.followImports failures with
  | some problem => throw problem
  | none =>
    let (modules, report) := analysis.modules.link NameMap.empty
    return ⟨modules, failures, report.unresolved, analysis.cached⟩

/-- The module of a single file, after a build of it. -/
def lookup (analyzer : Analyzer σ) (options : BuildOptions) (path : Path) :
    Work σ (Option Module) := do
  let result ← run analyzer options [path]
  return result.modules.ofPath? (analyzer.disk (← get)) path

end Build

end Declarations
