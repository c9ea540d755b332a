/-
This file holds an analyzer to try builds with: its first runs find a corrupt cache, and it
counts how often it is asked for what.
-/

import Declarations.Build.Builder

namespace Declarations

/-- A disk, and what an analyzer was asked for. -/
structure Trial where
  disk : Disk
  /-- How many more runs find a corrupt cache. -/
  corruptRuns : Nat
  runs : Nat
  drops : Nat
deriving Inhabited

namespace Trial

/-- Work on the disk of a trial. -/
def onDisk {α : Type} (work : Work Disk α) : Work Trial α := fun trial =>
  let (result, disk) := work.run trial.disk
  (result, { trial with disk := disk })

/-- The analyzer of a trial. -/
def analyzer : Analyzer Trial where
  disk := Trial.disk
  analyze := fun sources options => do
    let trial ← get
    set { trial with runs := trial.runs + 1, corruptRuns := trial.corruptRuns - 1 }
    if trial.corruptRuns > 0 then throw (.cacheCorrupt options.cacheDir)
    onDisk (Analysis.run sources options)
  dropCache := fun directory => do
    modify fun trial => { trial with drops := trial.drops + 1 }
    onDisk (Work.onDisk (Cache.remove directory))

end Trial

end Declarations
