/-
This file reads the sources of a build into modules. Files that they import are read as
well, where the policy says so, in rounds: a round reads all files that the round before
led to. A module is taken from the cache where its entry was made from the same text under
the same options, and either the inputs are those of the last build or the cache is used
module by module. The cache is written at the end.
-/

import Declarations.Build.Cache
import Declarations.Build.ImportSearch
import Declarations.Build.Origin
import Declarations.Graph.ModuleSet

namespace Declarations

/-- What reading sources gives. -/
structure Analysis where
  modules : ModuleSet
  failures : List Failure
  /-- How many modules come from the cache. -/
  cached : Nat
deriving Inhabited

/-- A module that was read. -/
structure Reading where
  module : Module
  fingerprint : String
  isFresh : Bool
deriving Inhabited

/-- A file that was read, or failed to be. -/
structure Visit where
  source : BuildSource
  /-- Whether an import led to it. -/
  isFollowed : Bool
  outcome : Except Problem Reading

namespace Analysis

/-- The version that is written into the cache. -/
def version : String := "declgraph-0.1.0"

/-- No modules. -/
def empty : Analysis :=
  ⟨NameMap.empty, [], 0⟩

/-! ### Files -/

/-- Reads a source file, or takes its module from a cache. -/
def read (disk : Disk) (options : LoweringOptions) (cache : Option Cache) (source : BuildSource) :
    Except Problem Reading := do
  let origin ← Origin.ofSource disk options source
  match cache.bind fun cache => cache.get? disk source.module origin.fingerprint with
  | some module => return ⟨module, origin.fingerprint, false⟩
  | none => return ⟨← origin.lower source.module, origin.fingerprint, true⟩

/-- The fingerprint of the inputs that can be read. -/
def inputsFingerprint (disk : Disk) (options : LoweringOptions) (sources : List BuildSource) :
    String :=
  Fingerprint.ofInputs <| sources.filterMap fun source =>
    match Origin.ofSource disk options source with
    | .ok origin => some (source.module, origin.fingerprint)
    | .error _ => none

/-! ### Imports -/

/-- The modules outside `seen` that the imports of a module lead to, in ascending order. -/
def importedModules (search : ImportSearch) (disk : Disk) (seen : List String)
    (module : Module) : List BuildSource :=
  let found := module.imports.filterMap fun symbol => search.moduleOf? disk symbol.target.key
  (found.foldl (fun map (name, path, root) =>
    if name ∈ seen then map else map.insert name ⟨path, name, root⟩)
    (NameMap.empty : NameMap BuildSource)).values

/-- What is known after some rounds. -/
structure Progress where
  /-- The modules that were asked for. -/
  seen : List String
  /-- What the next round reads. -/
  queue : List BuildSource
  visits : List Visit
  failures : List Failure

/-- Takes the imports of a file that was read into account. -/
def inspect (search : ImportSearch) (disk : Disk) (policy : FollowImports) (progress : Progress)
    (visit : Visit) : Progress :=
  let progress := { progress with visits := progress.visits ++ [visit] }
  match visit.outcome with
  | .error _ => progress
  | .ok reading =>
    let imported := importedModules search disk progress.seen reading.module
    match policy with
    | .normal | .silent =>
      { progress with
        seen := progress.seen ++ imported.map (·.module)
        queue := progress.queue ++ imported }
    | .error =>
      { progress with
        failures := progress.failures ++ imported.map fun found =>
          { module := some visit.source.module
            path := some visit.source.path
            problem := .analysis visit.source.path (.outsideImport found.module) } }
    | .skip => progress

/-- Reads a round of files. -/
def round (search : ImportSearch) (disk : Disk) (policy : FollowImports)
    (read : BuildSource → Except Problem Reading) (isFollowed : Bool) (progress : Progress) :
    Progress :=
  let visits := progress.queue.map fun source => (⟨source, isFollowed, read source⟩ : Visit)
  visits.foldl (inspect search disk policy) { progress with queue := [] }

/-- Reads the rounds that imports lead to, until no more file is asked for. -/
def rounds (search : ImportSearch) (disk : Disk) (policy : FollowImports)
    (read : BuildSource → Except Problem Reading) : Nat → Progress → Progress
  | 0, progress => progress
  | count + 1, progress =>
    if progress.queue.isEmpty then progress
    else
      rounds search disk policy read count (round search disk policy read true progress)

/-- The keys of the imports in the cache entries on a disk, whether or not the cache is used. -/
def storedKeys (disk : Disk) : List String :=
  disk.texts.flatMap fun text =>
    match CacheEntry.ofText? text with
    | some entry => entry.module.imports.map fun symbol => symbol.target.key
    | none => []

/-- The length of the longest of some texts. -/
def longest (texts : List String) : Nat :=
  (texts.map String.length).foldr max 0

/-- How long the name of a module can get that imports lead to: it starts with the name of an
input or a stored key, and what follows are names written in source files, one for each step
that leads down to a file. -/
def nameLimit (disk : Disk) (sources : List BuildSource) : Nat :=
  longest (sources.map (·.module) ++ storedKeys disk) + (longest disk.texts + 2) * disk.depth

/-- As many rounds as there are names that are not too long, or more. -/
def roundLimit (disk : Disk) (sources : List BuildSource) : Nat :=
  Nat.pow (Nat.pow 2 21) (nameLimit disk sources)

/-- Reads the inputs and all files that their imports lead to. -/
def visitAll (disk : Disk) (policy : FollowImports)
    (read : BuildSource → Except Problem Reading) (sources : List BuildSource) : Progress :=
  let search := ImportSearch.ofRoots (sources.map (·.base))
  let start : Progress := ⟨sources.map (·.module), sources, [], []⟩
  rounds search disk policy read (roundLimit disk sources)
    (round search disk policy read false start)

/-! ### Results -/

/-- Adds what became of a file. Under the silent policy files that imports led to do not fail. -/
def addVisit (policy : FollowImports) (analysis : Analysis) (visit : Visit) : Analysis :=
  match visit.outcome with
  | .ok reading =>
    { analysis with
      modules := analysis.modules.add reading.module
      cached := if reading.isFresh then analysis.cached else analysis.cached + 1 }
  | .error problem =>
    if visit.isFollowed && policy == .silent then analysis
    else
      { analysis with
        failures := analysis.failures ++
          [⟨some visit.source.module, some visit.source.path, problem⟩] }

/-- What the visits give. -/
def ofProgress (policy : FollowImports) (progress : Progress) : Analysis :=
  progress.visits.foldl (addVisit policy) { empty with failures := progress.failures }

/-- The modules that were read. -/
def readings (progress : Progress) : List Reading :=
  progress.visits.filterMap fun visit => visit.outcome.toOption

/-- Writes the modules that were read anew; one that cannot be written is left out. -/
def store (cache : Cache) (progress : Progress) (disk : Disk) : Disk :=
  ((readings progress).filter (·.isFresh)).foldl (fun disk reading =>
    match cache.put reading.module reading.fingerprint disk with
    | .ok disk => disk
    | .error _ => disk) disk

/-- The manifest after a build. -/
def manifestOf (inputs : String) (progress : Progress) : Manifest where
  version := version
  inputs := inputs
  modules := NameMap.ofList <|
    (readings progress).map fun reading => (reading.module.name, reading.fingerprint)

/-- The cache, where modules may be taken from it: module by module, or all together where the
inputs are those of the manifest. -/
def usable? (options : BuildOptions) (cache : Cache) (manifest : Option Manifest)
    (inputs : String) : Option Cache :=
  if options.fineGrained || (manifest.map (·.inputs)) == some inputs then some cache else none

/-- Reads the inputs and what they lead to, where modules may be taken from a cache. -/
def visitUsing (disk : Disk) (options : BuildOptions) (usable : Option Cache)
    (sources : List BuildSource) : Progress :=
  visitAll disk options.followImports (read disk options usable) sources

/-- Reads sources, with the cache. -/
def runCached (sources : List BuildSource) (options : BuildOptions) : Work Disk Analysis := do
  let cache ← Cache.openAt options.cacheDir version options.skipVersionCheck
  let manifest ← Work.look cache.manifest?
  let disk ← get
  let inputs := inputsFingerprint disk options sources
  let usable := usable? options cache manifest inputs
  let progress := visitUsing disk options usable sources
  modify (store cache progress)
  cache.writeManifest (manifestOf inputs progress)
  return ofProgress options.followImports progress

/-- Reads sources, without the cache. -/
def runFresh (sources : List BuildSource) (options : BuildOptions) : Work Disk Analysis := do
  return ofProgress options.followImports (visitUsing (← get) options none sources)

/-- Reads sources. -/
def run (sources : List BuildSource) (options : BuildOptions) : Work Disk Analysis :=
  if options.incremental then runCached sources options else runFresh sources options

end Analysis

end Declarations
