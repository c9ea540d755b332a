/-
This file is the program. It reads the directories that a command line is about, runs the
command line on the disk they make up, and writes back what the run changed. Directories
behind symbolic links are not entered.
-/

import Declarations.Command.Run

namespace Declarations

namespace Place

/-- The place that a path names, going by its steps alone. -/
def ofPath (home : Place) (path : Path) : Place :=
  (Disk.steps path).foldl (fun place step =>
    if step = "" ∨ step = "." then place
    else if step = ".." then place.dropLast
    else place ++ [step]) (if path.isAbsolute then [] else home)

/-- The directory in which the program was started. -/
def current : IO Place :=
  return ofPath [] ⟨(← IO.currentDir).toString⟩

/-- What stands at a place. What cannot be read counts as absent. -/
def read? (place : Place) : IO (Option DiskEntry) := do
  let there := (← IO.currentDir) / place.path.text
  if ← there.isDir then return some .directory
  match ← (IO.FS.readBinFile there).toBaseIO with
  | .error _ => return none
  | .ok bytes =>
    match String.fromUTF8? bytes with
    | some content => return some (.file (.text content))
    | none => return some (.file (.bytes bytes.toList))

/-- All that stands below a directory. -/
partial def readBelow (place : Place) : IO (List (Place × DiskEntry)) := do
  let there := (← IO.currentDir) / place.path.text
  match ← there.readDir.toBaseIO with
  | .error _ => return []
  | .ok found =>
    let below ← found.toList.mapM fun entry => do
      let inner := place ++ [entry.fileName]
      match ← inner.read? with
      | none => return []
      | some .directory =>
        let link := (← entry.path.symlinkMetadata).type == .symlink
        if link then return []
        return (inner, .directory) :: (← readBelow inner)
      | some file => return [(inner, file)]
    return below.flatten

/-- The first directory that is no package, from one upwards, by its reversed names. -/
def outside : List String → IO Place
  | [] => return []
  | name :: names => do
    let place := (name :: names).reverse
    match ← read? (place ++ [BuildSource.packageFile]) with
    | some (.file _) => outside names
    | _ => return place

/-- The directory that holds all a command can ask for when it names a place. -/
def around (place : Place) : IO Place := do
  match ← place.read? with
  | some .directory => outside place.reverse
  | _ => outside place.dropLast.reverse

end Place

namespace Disk

/-- The disk of the directories around places. -/
def readAround (home : Place) (places : List Place) : IO Disk := do
  let tops := (← places.mapM Place.around).eraseDups
  let tops := tops.filter fun top => !tops.any fun other => other != top && other.isPrefixOf top
  let above ← (tops.flatMap Place.way).eraseDups.mapM fun place =>
    return (← Place.read? place).map (place, ·)
  let below ← tops.mapM Place.readBelow
  return ⟨above.filterMap id ++ below.flatten, home⟩

/-- Makes the machine hold what a disk holds, where it held another one before. -/
def replace (before after : Disk) : IO Unit := do
  let root ← IO.currentDir
  let ascending (disk : Disk) := disk.entries.mergeSort fun first second =>
    precedes first.1 second.1
  for (place, entry) in (ascending before).reverse do
    if (after.entry? place).isNone then
      match entry with
      | .directory => IO.FS.removeDir (root / place.path.text)
      | .file _ => IO.FS.removeFile (root / place.path.text)
  for (place, entry) in ascending after do
    if before.entry? place != some entry then
      match entry with
      | .directory => IO.FS.createDirAll (root / place.path.text)
      | .file (.text content) => IO.FS.writeFile (root / place.path.text) content
      | .file (.bytes content) => IO.FS.writeBinFile (root / place.path.text) ⟨content.toArray⟩

end Disk

/-- The disk for a command line: the directories around the current one and around all paths
that the command and the configuration name. -/
def CommandLine.readDisk (words : List String) : IO Disk := do
  let home ← Place.current
  match Invocation.ofWords words with
  | .error _ => return .blank home
  | .ok invocation =>
    let place := Place.ofPath home invocation.config
    let above := (Place.way place.dropLast).map fun place => (place, DiskEntry.directory)
    let disk : Disk := ⟨above ++ ((← place.read?).map (place, ·)).toList, home⟩
    let config := (Config.loadOrDefault disk invocation.config).change invocation.change
    let paths := invocation.config :: config.build.cacheDir :: config.snapshot.output ::
      invocation.command.paths
    Disk.readAround home (home :: paths.map (Place.ofPath home))

end Declarations

/-- Runs the program. -/
def main (words : List String) : IO UInt32 := do
  let before ← Declarations.CommandLine.readDisk words
  let (result, after) := Declarations.CommandLine.run words before
  before.replace after
  IO.print result.output
  IO.eprint result.errors
  return .ofNat result.code
