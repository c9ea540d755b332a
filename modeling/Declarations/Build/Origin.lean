/-
This file says what a module is made from besides its name: the path and the text of a file,
and the options that shape modules. The fingerprint of an origin covers all three, so a
module may be taken from a cache where the fingerprint is the same.
-/

import Declarations.Build.Fingerprint
import Declarations.Build.Source
import Declarations.Lowering.Module
import Declarations.Outline.OfSource

namespace Declarations

/-- What a module is made from besides its name. -/
@[ext]
structure Origin where
  path : Path
  options : LoweringOptions
  text : String
deriving DecidableEq, Repr, Inhabited

namespace Origin

/-- A truth value as a word. -/
def word (value : Bool) : String :=
  if value then "true" else "false"

/-- The line that stands for a path and options. -/
def stamp (path : Path) (options : LoweringOptions) : String :=
  path.text ++ "|so=" ++ word options.strictOptional ++ "|pa=" ++ word options.preserveAsts ++
    "|ds=" ++ word options.includeDocstrings ++ "\n"

/-- The text of an origin behind its path and options. -/
def stamped (origin : Origin) : String :=
  stamp origin.path origin.options ++ origin.text

/-- The fingerprint of an origin. -/
def fingerprint (origin : Origin) : String :=
  Fingerprint.ofText origin.stamped

/-- The text of a source file. -/
def sourceText (disk : Disk) (path : Path) : Except Problem String :=
  match disk.readText path with
  | .ok text => .ok text
  | .error .notFound => .error (.sourceNotFound path)
  | .error fault => .error (.disk (some path) fault)

/-- What the module of a source is made from, where its file can be read. -/
def ofSource (disk : Disk) (options : LoweringOptions) (source : BuildSource) :
    Except Problem Origin := do
  return ⟨source.path, options, ← sourceText disk source.path⟩

/-- Makes the module of a name. -/
def lower (origin : Origin) (name : String) : Except Problem Module :=
  match Outline.read origin.text with
  | .ok outline => .ok (Module.ofOutline origin.options name origin.path outline)
  | .error line => .error (.analysis origin.path (.syntaxError line))

end Origin

end Declarations
