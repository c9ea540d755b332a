/-
This file holds the cache of a build, a directory on the disk. A manifest says for which
inputs it was written, and each module has an entry with the fingerprint of the text it was
made from. An entry that cannot be read, or that is not for the text at hand, counts as
missing; a manifest that cannot be read makes the whole cache count as corrupt. Their texts
are read part by part: what a record does not know is skipped, however it looks inside, and
what it knows must not be given twice.
-/

import Declarations.Json.Printer
import Declarations.Problem
import Declarations.Snapshot.Decoding

namespace Declarations

/-- Work that may change a state and may end in a problem; what was changed before stays. -/
abbrev Work (σ α : Type) : Type :=
  ExceptT Problem (StateM σ) α

namespace Work

/-- What a look at the state gives. -/
def look {σ α : Type} (find : σ → Except Problem α) : Work σ α := do
  match find (← get) with
  | .ok value => return value
  | .error problem => throw problem

/-- Changes a disk. -/
def onDisk (change : Disk → Except DiskFault Disk) : Work Disk Unit := do
  match change (← get) with
  | .ok disk => set disk
  | .error fault => throw (.disk none fault)

end Work

/-- What the cache says about the last build. -/
structure Manifest where
  version : String
  /-- The fingerprint of the inputs. -/
  inputs : String
  /-- The fingerprints of the modules. -/
  modules : NameMap String
deriving Inhabited

/-- A cache at a directory, as a version uses it. -/
structure Cache where
  directory : Path
  version : String
  /-- Whether what another version wrote counts. -/
  anyVersion : Bool
deriving DecidableEq, Repr, Inhabited

/-! ### Formats -/

namespace Manifest

/-- A manifest as JSON. -/
def toJson (manifest : Manifest) : Json :=
  .object
    [("version", .text manifest.version), ("inputs_hash", .text manifest.inputs),
      ("modules", .object (manifest.modules.entries.map fun (name, hash) => (name, .text hash)))]

/-- What was read of a manifest. -/
structure Draft where
  version : Option String := none
  inputs : Option String := none
  modules : Option (NameMap String) := none

/-- The texts of an object by their names. -/
def texts : Json.Shape (NameMap String)
  | .object fields =>
    fields.foldlM (fun map (name, value) => do
      return map.insert name (← Json.Shape.text value)) NameMap.empty
  | other => .error (.wrongType other "a map")

/-- Puts a value into the place of its name. -/
def Draft.fill (draft : Draft) (field : String) : Json.Shape Draft := fun value =>
  match field with
  | "version" => return { draft with version := ← Json.Shape.text value }
  | "inputs_hash" => return { draft with inputs := ← Json.Shape.text value }
  | "modules" => return { draft with modules := ← texts value }
  | _ => return draft

/-- The fields of a manifest. -/
def fieldNames : List String :=
  ["version", "inputs_hash", "modules"]

/-- A manifest. -/
def ofJson : Json.Shape Manifest := fun value => do
  let draft ← Json.Shape.record "struct Manifest" .direct fieldNames ({} : Draft) Draft.fill value
  return {
    version := ← draft.require "version" (·.version)
    inputs := ← draft.require "inputs_hash" (·.inputs)
    modules := ← draft.require "modules" (·.modules) }

end Manifest

/-- A module in the cache. -/
structure CacheEntry where
  version : String
  fingerprint : String
  module : ModuleEntry
deriving Inhabited

namespace CacheEntry

/-- An entry as JSON. -/
def toJson (entry : CacheEntry) : Json :=
  .object
    [("version", .text entry.version), ("hash", .text entry.fingerprint),
      ("module", entry.module.toJson)]

/-- What was read of an entry. -/
structure Draft where
  version : Option String := none
  fingerprint : Option String := none
  module : Option ModuleEntry := none

/-- Puts a value into the place of its name. -/
def Draft.fill (draft : Draft) (field : String) : Json.Shape Draft := fun value =>
  match field with
  | "version" => return { draft with version := ← Json.Shape.text value }
  | "hash" => return { draft with fingerprint := ← Json.Shape.text value }
  | "module" => return { draft with module := ← ModuleEntry.ofJson value }
  | _ => return draft

/-- The fields of an entry. -/
def fieldNames : List String :=
  ["version", "hash", "module"]

/-- An entry. -/
def ofJson : Json.Shape CacheEntry := fun value => do
  let draft ← Json.Shape.record "struct CacheEntry" .direct fieldNames ({} : Draft) Draft.fill value
  return {
    version := ← draft.require "version" (·.version)
    fingerprint := ← draft.require "hash" (·.fingerprint)
    module := ← draft.require "module" (·.module) }

end CacheEntry

/-! ### Texts -/

/-- The parts that the texts in a cache are read by. A part that is no record is read in full. -/
inductive CachePart where
  | manifest
  | entry
  | module
  | imports
  | imported
  | definitions
  | definition
  | span
  | whole
deriving DecidableEq, Repr

namespace CachePart

/-- The parts that the fields of a record are. -/
def fields : CachePart → List (String × CachePart)
  | manifest => [("version", whole), ("inputs_hash", whole), ("modules", whole)]
  | entry => [("version", whole), ("hash", whole), ("module", module)]
  | module =>
    [(Json.tagField, whole), ("version", whole), ("name", whole), ("path", whole),
      ("docstring", whole), ("is_package", whole), ("imports", imports), ("defs", definitions)]
  | imported => [("name", whole), ("target", whole)]
  | definition => [("span", span), ("children", definitions)]
  | span => [("line_start", whole), ("line_end", whole)]
  | imports | definitions | whole => []

/-- Whether fields that are not among those of a part are skipped. Those of a declaration are not,
since which of them it has depends on its kind. -/
def skips : CachePart → Bool
  | manifest | entry | module | imported | span => true
  | imports | definitions | definition | whole => false

/-- How the texts in a cache are read. A record may also be given as the list of its fields. -/
def plan : Json.Plan CachePart where
  field part name := part.fields.lookup name <|> if part.skips then none else some whole
  item
    | imports, _ => imported
    | definitions, _ => definition
    | part, place => (part.fields[place]?.map (·.2)).getD whole

/-- What is read of a text, where it has a shape. -/
def ofText? {α : Type} (part : CachePart) (shape : Json.Shape α) (text : String) : Option α :=
  match Json.readParts plan part Json.depthLimit text with
  | .ok value => (shape value).toOption
  | .error _ => none

end CachePart

/-- The manifest that a text holds. -/
def Manifest.ofText? (text : String) : Option Manifest :=
  CachePart.manifest.ofText? ofJson text

/-- The entry that a text holds. -/
def CacheEntry.ofText? (text : String) : Option CacheEntry :=
  CachePart.entry.ofText? ofJson text

/-! ### The directory -/

namespace Cache

/-- The directory that holds the entries. -/
def entries (cache : Cache) : Path :=
  cache.directory.join "modules"

/-- The file of an entry. -/
def entryPath (cache : Cache) (module : String) : Path :=
  cache.entries.join (module ++ ".json")

/-- The file of the manifest. -/
def manifestPath (cache : Cache) : Path :=
  cache.directory.join "manifest.json"

/-- Whether what a version wrote counts. -/
def accepts (cache : Cache) (version : String) : Bool :=
  cache.anyVersion || version == cache.version

/-- Opens a cache, and makes its directory where it is missing. -/
def openAt (directory : Path) (version : String) (anyVersion : Bool) : Work Disk Cache := do
  let cache : Cache := ⟨directory, version, anyVersion⟩
  Work.onDisk fun disk => disk.makeDirectories cache.entries
  return cache

/-- The manifest, where there is one that counts. -/
def manifest? (cache : Cache) (disk : Disk) : Except Problem (Option Manifest) :=
  if !disk.exists? cache.manifestPath then .ok none
  else
    match disk.readText cache.manifestPath with
    | .error _ => .error (.cacheCorrupt cache.manifestPath)
    | .ok text =>
      match Manifest.ofText? text with
      | none => .error (.cacheCorrupt cache.manifestPath)
      | some manifest => .ok (if cache.accepts manifest.version then some manifest else none)

/-- Writes the manifest. -/
def writeManifest (cache : Cache) (manifest : Manifest) : Work Disk Unit :=
  Work.onDisk fun disk => disk.write cache.manifestPath (.text manifest.toJson.pretty)

/-- The entry of a name, where one can be read. -/
def entry? (cache : Cache) (disk : Disk) (name : String) : Option CacheEntry := do
  CacheEntry.ofText? (← (disk.readText (cache.entryPath name)).toOption)

/-- The module of a name, where its entry was made from a text with the fingerprint. -/
def get? (cache : Cache) (disk : Disk) (name fingerprint : String) : Option Module := do
  let entry ← cache.entry? disk name
  if entry.fingerprint ≠ fingerprint ∨ !cache.accepts entry.version then none
  let module ← entry.module.toModule.toOption
  if module.name = name then some module else none

/-- The text of an entry. -/
def entryText (cache : Cache) (module : Module) (fingerprint : String) : String :=
  (CacheEntry.toJson ⟨cache.version, fingerprint, ModuleEntry.ofModule module⟩).compress

/-- The disk with the entry of a module. -/
def put (cache : Cache) (module : Module) (fingerprint : String) (disk : Disk) :
    Except DiskFault Disk :=
  disk.write (cache.entryPath module.name) (.text (cache.entryText module fingerprint))

/-- Removes a cache with all it holds. -/
def remove (directory : Path) (disk : Disk) : Except DiskFault Disk :=
  if disk.exists? directory then disk.removeDirectory directory else .ok disk

end Cache

end Declarations
