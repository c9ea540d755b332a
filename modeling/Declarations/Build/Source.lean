/-
This file finds the source files of a build. A file gets its module name from where it
stands: the directories around it that are packages are in front of its own name, and the
first directory that is none is the base from which the module can be imported.
-/

import Declarations.Build.Options
import Declarations.Problem

namespace Declarations

/-- A source file. -/
structure BuildSource where
  path : Path
  module : String
  /-- The directory that holds the outermost package. -/
  base : Path
deriving DecidableEq, Repr, Inhabited

namespace BuildSource

/-- The name of the file that makes a directory a package. -/
def packageFile : String := "__init__.py"

/-- The names of the packages from a directory upwards, and the directory above them. The number
bounds how far up they go. -/
def packagesFrom (disk : Disk) : Nat → Path → List String × Path
  | 0, directory => ([], directory)
  | count + 1, directory =>
    if disk.isFile (directory.join packageFile) then
      match directory.fileName? with
      | none => ([], directory)
      | some name =>
        match directory.parent? with
        | none => ([name], directory)
        | some parent =>
          let (names, base) := packagesFrom disk count parent
          (name :: names, base)
    else ([], directory)

/-- The module name of a file, and its base. The file of a package itself has the name of the
package. -/
def moduleName (disk : Disk) (path : Path) : String × Path :=
  let stem := path.stem?.getD ""
  let directory := path.parent?.getD ⟨""⟩
  let (packages, base) := packagesFrom disk (path.components.length + 1) directory
  (Dotted.join (packages.reverse ++ if stem = "__init__" then [] else [stem]), base)

/-- The source at a path. -/
def ofPath (disk : Disk) (path : Path) : BuildSource :=
  let path := disk.absolute path
  let (module, base) := moduleName disk path
  ⟨path, module, base⟩

/-! ### Collecting -/

/-- Whether a file is read when its directory is an input. -/
def isSourceFile (path : Path) : Bool :=
  path.extension? == some "py" || path.extension? == some "pyi"

/-- The ends of a path, longest first, as texts. -/
def ends : List String → List String
  | [] => []
  | name :: rest => "/".intercalate (name :: rest) :: ends rest

/-- Whether some end of a path matches a pattern. -/
def isExcluded (patterns : List GlobPattern) (names : List String) : Bool :=
  (ends names).any fun text => patterns.any fun pattern => pattern.isMatch text

/-- The files of a directory that are read, in order. -/
def filesOf (disk : Disk) (patterns : List GlobPattern) (directory : Path) : List Path :=
  (disk.filesIn directory).filterMap fun names =>
    let path := names.foldl Path.join directory
    if isSourceFile path && !isExcluded patterns names then some path else none

/-- The files that the inputs stand for, and the inputs that stand for none. -/
def expand (disk : Disk) (patterns : List GlobPattern) (inputs : List Path) :
    List Path × List Failure :=
  let found := inputs.map fun input =>
    if disk.isDirectory input then (filesOf disk patterns input, [])
    else if disk.isFile input then ([input], [])
    else ([], [{ module := none, path := some input, problem := .sourceNotFound input }])
  (found.flatMap (·.1), found.flatMap (·.2))

/-- The first source of every module name. -/
def firstOfEach : List String → List BuildSource → List BuildSource
  | _, [] => []
  | seen, source :: rest =>
    if source.module ∈ seen then firstOfEach seen rest
    else source :: firstOfEach (source.module :: seen) rest

/-- The sources of a build, and the inputs that are missing. -/
def collect (disk : Disk) (exclude : List String) (inputs : List Path) :
    Except Problem (List BuildSource × List Failure) :=
  match exclude.mapM GlobPattern.parse with
  | .error error => .error (.pattern error)
  | .ok patterns =>
    let (files, failures) := expand disk patterns inputs
    .ok (firstOfEach [] (files.map (ofPath disk)), failures)

end BuildSource

end Declarations
