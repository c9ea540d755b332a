/-
This file holds paths. A path keeps the text it was written as, which is what messages
and snapshots show; two texts may still name the same place, and the components of a
path say which place it names.
-/

namespace Declarations

/-- A path, as it is written. -/
structure Path where
  text : String
deriving DecidableEq, Repr, Inhabited

namespace Path

/-- Whether a path starts at the root. -/
def isAbsolute (path : Path) : Bool :=
  path.text.toList.head? == some '/'

/-- The names between the slashes, without those that name the place they stand in. -/
def names (path : Path) : List String :=
  ((path.text.toList.splitOn '/').map String.ofList).filter fun name => name != "" && name != "."

/-- What a path consists of: the root or the current place where it starts there, and names. -/
def components (path : Path) : List String :=
  let start :=
    if path.isAbsolute then ["/"]
    else if (path.text.toList.splitOn '/').head? == some ['.'] then ["."]
    else []
  start ++ path.names

/-- Whether two paths name the same place in the same way. -/
def same (path other : Path) : Bool :=
  path.components == other.components

/-- The path of a name, or of another path, below a path. An absolute one replaces it. -/
def join (path : Path) (name : String) : Path :=
  if name.toList.head? == some '/' then ⟨name⟩
  else if path.text.isEmpty || path.text.toList.getLast? == some '/' then ⟨path.text ++ name⟩
  else ⟨path.text ++ "/" ++ name⟩

/-- Removes slashes and names of the current place from the end of a reversed text, except
where the path starts with them. -/
def trimBack : List Char → List Char
  | ['/'] => ['/']
  | '/' :: rest => trimBack rest
  | '.' :: '/' :: rest => trimBack ('/' :: rest)
  | text => text
termination_by text => text.length

/-- The last component, where it is a name. -/
def fileName? (path : Path) : Option String :=
  match path.components.getLast? with
  | none | some "/" | some "." | some ".." => none
  | some name => some name

/-- A file name without and with what follows its last dot. A dot at the start counts as part
of the name. -/
def splitName (name : String) : String × Option String :=
  let reversed := name.toList.reverse
  let extension := reversed.takeWhile (· ≠ '.')
  match reversed.dropWhile (· ≠ '.') with
  | [] => (name, none)
  | [_] => (name, none)
  | _ :: stem => (String.ofList stem.reverse, some (String.ofList extension.reverse))

/-- The file name without its extension. -/
def stem? (path : Path) : Option String :=
  path.fileName?.map fun name => (splitName name).1

/-- The extension of the file name. -/
def extension? (path : Path) : Option String :=
  path.fileName?.bind fun name => (splitName name).2

/-- The path without its last component; none for the root and the empty path. -/
def parent? (path : Path) : Option Path :=
  match trimBack path.text.toList.reverse with
  | [] | ['/'] => none
  | text => some ⟨String.ofList (trimBack (text.dropWhile (· ≠ '/'))).reverse⟩

/-- The path with another extension, or with one in the first place. A path without a file
name stays. -/
def withExtension (path : Path) (extension : String) : Path :=
  match path.fileName? with
  | none => path
  | some name =>
    let text := (trimBack path.text.toList.reverse).drop name.length
    ⟨String.ofList text.reverse ++ (splitName name).1 ++ "." ++ extension⟩

/-- The components of a path below a base; all of them when it is not below it. -/
def below (base path : Path) : List String :=
  (base.components.isPrefixOf? path.components).getD path.components

end Path

end Declarations
