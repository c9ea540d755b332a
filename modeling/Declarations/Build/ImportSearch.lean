/-
This file finds the files of imported modules. The directories of a search are tried in
order, and of a key the longest front that names a module counts.
-/

import Declarations.Disk.Basic
import Declarations.Lowering.StandardLibrary

namespace Declarations

/-- Where an imported module comes from. -/
inductive ImportOrigin where
  | standard
  | thirdParty
  | here (path root : Path)
deriving DecidableEq, Repr, Inhabited

/-- The directories that are searched, each once. -/
structure ImportSearch where
  roots : List Path
deriving DecidableEq, Repr, Inhabited

namespace ImportSearch

/-- A search in some directories. -/
def ofRoots (roots : List Path) : ImportSearch :=
  ⟨roots.foldl (fun kept root =>
    if kept.any fun other => other.same root then kept else kept ++ [root]) []⟩

/-- The file of a module at a path without extension: a source, a stub, or a package. -/
def fileAt? (disk : Disk) (path : Path) : Option Path :=
  [path.withExtension "py", path.withExtension "pyi", path.join "__init__.py"].find? disk.isFile

/-- The path that a module name leads to. -/
def relativePath (module : String) : String :=
  String.ofList (module.toList.map fun character => if character = '.' then '/' else character)

/-- The file of a module, and the directory where it was found. -/
def find? (search : ImportSearch) (disk : Disk) (module : String) : Option (Path × Path) :=
  if module.isEmpty then none
  else
    search.roots.findSome? fun root =>
      (fileAt? disk (root.join (relativePath module))).map fun path => (path, root)

/-- Where a module comes from. -/
def origin (search : ImportSearch) (disk : Disk) (module : String) : ImportOrigin :=
  if isStandard module then .standard
  else
    match search.find? disk module with
    | some (path, root) => .here path root
    | none => .thirdParty

/-- The longest front of a key, or the whole key, that names a module, with its file and where
it was found. -/
def moduleOf? (search : ImportSearch) (disk : Disk) (key : String) :
    Option (String × Path × Path) :=
  if isStandard key then none
  else
    (key :: (Dotted.fronts key).map (·.1)).findSome? fun module =>
      (search.find? disk module).map fun (path, root) => (module, path, root)

end ImportSearch

end Declarations
