/-
This file holds disks: the files and directories below the root, and the directory at
which relative paths start. A place on a disk is the list of the names that lead to it.
Looking up a path follows its names one after the other, so each but the last must be a
directory.
-/

import Declarations.Disk.Path

namespace Declarations

/-- The names that lead to a place from the root. -/
abbrev Place : Type :=
  List String

/-- What a file holds. -/
inductive FileContent where
  | text (content : String)
  /-- Bytes that are no text. -/
  | bytes (content : List UInt8)
deriving DecidableEq, Repr, Inhabited

/-- What stands at a place. -/
inductive DiskEntry where
  | directory
  | file (content : FileContent)
deriving DecidableEq, Repr, Inhabited

/-- Why a disk refuses. -/
inductive DiskFault where
  | notFound
  | notText
  | isDirectory
  | notDirectory
  | alreadyExists
deriving DecidableEq, Repr, Inhabited

/-- A disk. The root is always there and has no entry. -/
structure Disk where
  entries : List (Place × DiskEntry)
  /-- Where relative paths start. -/
  home : Place
deriving DecidableEq, Repr, Inhabited

/-- The message for a refusal. -/
def DiskFault.message : DiskFault → String
  | .notFound => "No such file or directory (os error 2)"
  | .notText => "stream did not contain valid UTF-8"
  | .isDirectory => "Is a directory (os error 21)"
  | .notDirectory => "Not a directory (os error 20)"
  | .alreadyExists => "File exists (os error 17)"

/-- The path of a place. -/
def Place.path (place : Place) : Path :=
  ⟨"/" ++ "/".intercalate place⟩

/-- The places that lead from the root to a place, and the place itself. -/
def Place.way (place : Place) : List Place :=
  (List.range place.length).map fun count => place.take (count + 1)

namespace Disk

/-- A disk on which there is nothing but the directories that lead to `home`. -/
def blank (home : Place) : Disk where
  entries := home.way.map fun place => (place, .directory)
  home := home

/-- The texts of the files. -/
def texts (disk : Disk) : List String :=
  disk.entries.filterMap fun (_, entry) =>
    match entry with
    | .file (.text content) => some content
    | _ => none

/-- How deep the deepest entry lies. -/
def depth (disk : Disk) : Nat :=
  (disk.entries.map fun (place, _) => place.length).foldr max 0

/-- What stands at a place. -/
def entry? (disk : Disk) (place : Place) : Option DiskEntry :=
  if place.isEmpty then some .directory else disk.entries.lookup place

/-! ### Paths -/

/-- Follows the steps of a path. An empty step and a dot stay, and two dots lead up; what is left
of a step must be a directory. -/
def follow (disk : Disk) (place : Place) : List String → Except DiskFault Place
  | [] => .ok place
  | step :: rest =>
    match disk.entry? place with
    | none => .error .notFound
    | some (.file _) => .error .notDirectory
    | some .directory =>
      if step = "" ∨ step = "." then disk.follow place rest
      else if step = ".." then disk.follow place.dropLast rest
      else disk.follow (place ++ [step]) rest

/-- The steps of a path. -/
def steps (path : Path) : List String :=
  (path.text.toList.splitOn '/').map String.ofList

/-- The place that a path leads to, whether or not something stands there. -/
def locate (disk : Disk) (path : Path) : Except DiskFault Place :=
  if path.text.isEmpty then .error .notFound
  else disk.follow (if path.isAbsolute then [] else disk.home) (steps path)

/-- What stands where a path leads. -/
def find (disk : Disk) (path : Path) : Except DiskFault DiskEntry := do
  match disk.entry? (← disk.locate path) with
  | some entry => return entry
  | none => throw .notFound

/-- Whether a path leads to a file. -/
def isFile (disk : Disk) (path : Path) : Bool :=
  match disk.find path with
  | .ok (.file _) => true
  | _ => false

/-- Whether a path leads to a directory. -/
def isDirectory (disk : Disk) (path : Path) : Bool :=
  match disk.find path with
  | .ok .directory => true
  | _ => false

/-- Whether a path leads to something. -/
def exists? (disk : Disk) (path : Path) : Bool :=
  (disk.find path).isOk

/-- The path of what a path leads to, from the root and without detours. -/
def canonical (disk : Disk) (path : Path) : Except DiskFault Path := do
  let place ← disk.locate path
  match disk.entry? place with
  | some _ => return place.path
  | none => throw .notFound

/-- A path from the root: the canonical one where the path leads to something. -/
def absolute (disk : Disk) (path : Path) : Path :=
  match disk.canonical path with
  | .ok path => path
  | .error _ => if path.isAbsolute then path else disk.home.path.join path.text

/-! ### Reading -/

/-- The text of a file. -/
def readText (disk : Disk) (path : Path) : Except DiskFault String := do
  match ← disk.find path with
  | .directory => throw .isDirectory
  | .file (.text content) => return content
  | .file (.bytes _) => throw .notText

/-- Whether one place comes before another or is the same, when a directory comes right before
what it holds. -/
def precedes : Place → Place → Bool
  | [], _ => true
  | _ :: _, [] => false
  | name :: names, other :: others => name < other || (name == other && precedes names others)

/-- The files below a place, as the names that lead to them from there, in order. -/
def filesBelow (disk : Disk) (place : Place) : List Place :=
  (disk.entries.filterMap fun (found, entry) =>
    match entry with
    | .directory => none
    | .file _ => place.isPrefixOf? found).mergeSort precedes

/-- The files below the directory that a path leads to. -/
def filesIn (disk : Disk) (path : Path) : List Place :=
  match disk.locate path with
  | .ok place => disk.filesBelow place
  | .error _ => []

/-! ### Writing -/

/-- Puts an entry at a place. -/
def put (disk : Disk) (place : Place) (entry : DiskEntry) : Disk :=
  { disk with entries := (place, entry) :: disk.entries.filter fun (other, _) => other != place }

/-- Writes a file in a directory that is there. -/
def write (disk : Disk) (path : Path) (content : FileContent) : Except DiskFault Disk := do
  let place ← disk.locate path
  match disk.entry? place with
  | some .directory => throw .isDirectory
  | some (.file _) => return disk.put place (.file content)
  | none =>
    match disk.entry? place.dropLast with
    | some .directory => return disk.put place (.file content)
    | some (.file _) => throw .notDirectory
    | none => throw .notFound

/-- Makes the directories along the steps of a path. -/
def makeAlong (disk : Disk) (place : Place) : List String → Except DiskFault Disk
  | [] => .ok disk
  | step :: rest =>
    if step = "" ∨ step = "." then disk.makeAlong place rest
    else if step = ".." then disk.makeAlong place.dropLast rest
    else
      let next := place ++ [step]
      match disk.entry? next with
      | some .directory => disk.makeAlong next rest
      | some (.file _) => .error (if rest.isEmpty then .alreadyExists else .notDirectory)
      | none => (disk.put next .directory).makeAlong next rest

/-- Makes a directory and those that lead to it, where they are missing. -/
def makeDirectories (disk : Disk) (path : Path) : Except DiskFault Disk :=
  disk.makeAlong (if path.isAbsolute then [] else disk.home) (steps path)

/-- Removes what stands at a place and below it. -/
def removeAt (disk : Disk) (place : Place) : Disk :=
  { disk with entries := disk.entries.filter fun (other, _) => !place.isPrefixOf other }

/-- Removes a directory with all it holds. -/
def removeDirectory (disk : Disk) (path : Path) : Except DiskFault Disk := do
  let place ← disk.locate path
  match disk.entry? place with
  | none => throw .notFound
  | some (.file _) => throw .notDirectory
  | some .directory => return disk.removeAt place

/-- Removes a file, or a directory with all it holds. -/
def remove (disk : Disk) (path : Path) : Except DiskFault Disk := do
  let place ← disk.locate path
  match disk.entry? place with
  | none => throw .notFound
  | some _ => return disk.removeAt place

end Disk

end Declarations
