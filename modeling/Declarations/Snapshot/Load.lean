/-
This file loads snapshots. First every entry is made into a module whose references are
keys; an entry that is malformed becomes a failure of its own. Then the modules are linked
with each other and with those loaded before.
-/

import Declarations.Linking.Link
import Declarations.Snapshot.Basic
import Declarations.Snapshot.Decoding

namespace Declarations

/-- The modules of some entries, and the entries that are no modules. -/
structure Instantiated where
  modules : ModuleSet
  failures : List Failure
deriving Inhabited

/-- The modules of a snapshot, linked. -/
structure LoadResult where
  modules : ModuleSet
  failures : List Failure
  unresolved : List UnresolvedReference
deriving Inhabited

/-- Whether every entry was loaded and every reference resolved. -/
def LoadResult.isClean (result : LoadResult) : Bool :=
  result.failures.isEmpty && result.unresolved.isEmpty

/-- The module of an entry that stands under a name. -/
def Module.ofEntry (name : String) (value : Json) : Except Problem Module :=
  match ModuleEntry.ofJson value with
  | .error error => .error (.malformed name (.shape error))
  | .ok entry =>
    if entry.name ≠ name then .error (.malformed name (.misnamed entry.name))
    else
      match entry.toModule with
      | .ok module => .ok module
      | .error error => .error (.malformed entry.name (.entry error))

namespace Instantiated

/-- No entries. -/
def empty : Instantiated :=
  ⟨NameMap.empty, []⟩

/-- Adds what became of an entry. -/
def add (instantiated : Instantiated) (name : String) : Except Problem Module → Instantiated
  | .ok module => { instantiated with modules := instantiated.modules.add module }
  | .error problem =>
    { instantiated with failures := instantiated.failures ++ [⟨some name, none, problem⟩] }

end Instantiated

namespace Snapshot

/-- The modules of all entries. -/
def instantiate (snapshot : Snapshot) : Instantiated :=
  snapshot.entries.foldl (fun instantiated (name, value) =>
    instantiated.add name (Module.ofEntry name value)) .empty

/-- The modules of some entries; each name without an entry is a failure. -/
def instantiateOnly (snapshot : Snapshot) (names : List String) : Instantiated :=
  names.foldl (fun instantiated name =>
    instantiated.add name <|
      match snapshot.get? name with
      | some value => Module.ofEntry name value
      | none => .error (.notInSnapshot name)) .empty

/-- Loads a snapshot after some modules. -/
def load (snapshot : Snapshot) (previous : ModuleSet) : LoadResult :=
  let instantiated := snapshot.instantiate
  let (modules, report) := instantiated.modules.link previous
  ⟨modules, instantiated.failures, report.unresolved⟩

/-- Loads a snapshot from a text. -/
def loadText (text : String) (previous : ModuleSet) : Except Problem LoadResult :=
  match ofText text with
  | .ok snapshot => .ok (snapshot.load previous)
  | .error problem => .error (.json problem)

/-- Loads a snapshot from a file, which is then the path of its failures. -/
def loadFile (disk : Disk) (path : Path) (previous : ModuleSet) : Except Problem LoadResult := do
  let result := (← read disk path).load previous
  return { result with
    failures := result.failures.map fun failure =>
      { failure with path := some (failure.path.getD path) } }

/-- The module in a file that holds exactly one entry. -/
def loadModule (disk : Disk) (path : Path) : Except Problem Module := do
  let snapshot ← read disk path
  match snapshot.entries with
  | [(name, value)] => Module.ofEntry name value
  | entries => throw (.notOneModule path entries.length)

end Snapshot

end Declarations
