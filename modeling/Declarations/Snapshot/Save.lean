/-
This file writes snapshots to the disk. The directories that lead to the file are made
where they are missing.
-/

import Declarations.Build.Builder
import Declarations.Snapshot.Basic

namespace Declarations.Snapshot

/-- Writes a snapshot to a file. -/
def write (snapshot : Snapshot) (path : Path) (indented : Bool) : Work Disk Unit := do
  match path.parent? with
  | some directory =>
    if !directory.text.isEmpty then Work.onDisk fun disk => disk.makeDirectories directory
  | none => pure ()
  Work.onDisk fun disk => disk.write path (.text (snapshot.render indented))

/-- Writes a value to a file, as a snapshot with one entry. -/
def writeValue (value : Json) (path : Path) : Work Disk Unit := do
  let snapshot ← Work.look fun _ => ofValue value
  snapshot.write path true

/-- Builds the graph of some files and directories, and writes it to a file. -/
def writeBuild (options : BuildOptions) (inputs : List Path) (path : Path) (indented : Bool) :
    Work Disk BuildResult := do
  let result ← Build.run .standard options inputs
  (ofModules result.modules).write path indented
  return result

end Declarations.Snapshot
