/-
This file proves what loading a snapshot after others comes to. Each of the others is linked
with those before it, and may replace modules of theirs; but linking looks only at names, keys
and fullnames, which it never changes. So what the last snapshot is linked with is as good as
the modules that were read from the others and merged without linking any of them.
-/

import Declarations.Command.Run
import Declarations.Proofs.Build.Work
import Declarations.Proofs.Linking.Relinking

namespace Declarations

/-! ### Loading one snapshot -/

namespace Snapshot

theorem reset_load (snapshot : Snapshot) (previous : ModuleSet) :
    (snapshot.load previous).modules.reset = snapshot.instantiate.modules.reset :=
  snapshot.instantiate.modules.reset_link previous

/-- What a snapshot is linked with counts only apart from what linking added to it. -/
theorem load_congr (snapshot : Snapshot) {previous earlier : ModuleSet}
    (same : previous.reset = earlier.reset) :
    snapshot.load previous = snapshot.load earlier := by
  rw [load, load, ModuleSet.link_congr _ same]

theorem loadFile_congr (disk : Disk) (path : Path) {previous earlier : ModuleSet}
    (same : previous.reset = earlier.reset) :
    loadFile disk path previous = loadFile disk path earlier := by
  have alike (snapshot : Snapshot) : snapshot.load previous = snapshot.load earlier :=
    load_congr snapshot same
  simp only [loadFile, alike]

/-- Modules with those of one more snapshot, which are not linked. -/
def readNext (disk : Disk) (merged : ModuleSet) (path : Path) : Except Problem ModuleSet := do
  let snapshot ← read disk path
  return merged.merge snapshot.instantiate.modules

/-- The modules of several snapshots, none of them linked; of two with one name the later
counts. -/
def readAll (disk : Disk) (paths : List Path) : Except Problem ModuleSet :=
  paths.foldlM (readNext disk) NameMap.empty

end Snapshot

/-! ### The console -/

namespace Console

/-- A console after some more lines. -/
def saying (console : Console) (said : List String) : Console :=
  { console with lines := console.lines ++ said }

variable (console : Console)

theorem disk_saying (said : List String) : (console.saying said).disk = console.disk :=
  rfl

theorem saying_nil : console.saying [] = console := by
  rw [saying, List.append_nil]

theorem saying_saying (said more : List String) :
    (console.saying said).saying more = console.saying (said ++ more) := by
  rw [saying, saying, saying, List.append_assoc]

theorem run_say (said : List String) : (say said).run console = (.ok (), console.saying said) :=
  rfl

theorem run_look {α : Type} (find : Disk → Except Problem α) :
    (look find).run console = (find console.disk, console) := by
  have looked : (Work.look find).run console.disk = (find console.disk, console.disk) := by
    cases found : find console.disk with
    | ok value => exact Work.run_look_ok found
    | error problem => exact Work.run_look_error found
  show (((Work.look find).run console.disk).1,
    { console with disk := ((Work.look find).run console.disk).2 }) = _
  rw [looked]

end Console

namespace Command

/-! ### Loading several snapshots -/

/-- Loads one more file after others. -/
def loadNext (loaded : ModuleSet) (path : Path) : Work Console ModuleSet := do
  let result ← Console.look fun disk => Snapshot.loadFile disk path loaded
  if !result.isClean then Console.say (loadSummary path result)
  return loaded.merge result.modules

theorem loadAll_eq (paths : List Path) : loadAll paths = paths.foldlM loadNext NameMap.empty :=
  rfl

variable {console : Console} {path : Path}

theorem run_loadNext_error (loaded : ModuleSet) {problem : Problem}
    (refused : Snapshot.read console.disk path = .error problem) :
    (loadNext loaded path).run console = (.error problem, console) := by
  have file : Snapshot.loadFile console.disk path loaded = .error problem := by
    rw [Snapshot.loadFile, refused]
    rfl
  refine Work.run_bind_error ?_
  rw [Console.run_look, file]

theorem run_loadNext_ok (loaded : ModuleSet) {snapshot : Snapshot}
    (given : Snapshot.read console.disk path = .ok snapshot) :
    ∃ said, (loadNext loaded path).run console =
      (.ok (loaded.merge (snapshot.load loaded).modules), console.saying said) := by
  obtain ⟨result, file, modules⟩ : ∃ result,
      Snapshot.loadFile console.disk path loaded = .ok result ∧
        result.modules = (snapshot.load loaded).modules := by
    rw [Snapshot.loadFile, given]
    exact ⟨_, rfl, rfl⟩
  have looked := Console.run_look console fun disk => Snapshot.loadFile disk path loaded
  rw [file] at looked
  rw [loadNext, Work.run_bind_ok looked, modules]
  cases result.isClean with
  | true => exact ⟨[], by rw [Console.saying_nil]; rfl⟩
  | false => exact ⟨loadSummary path result, rfl⟩

/-- Loading files one after the other ends where reading them does, in the same problem or in
modules that are the same apart from what linking added to them. -/
theorem run_foldlM_loadNext (paths : List Path) (console : Console) {loaded merged : ModuleSet}
    (same : loaded.reset = merged.reset) :
    ∃ said, match paths.foldlM (Snapshot.readNext console.disk) merged with
      | .error problem =>
        (paths.foldlM loadNext loaded).run console = (.error problem, console.saying said)
      | .ok merged => ∃ linked,
        (paths.foldlM loadNext loaded).run console = (.ok linked, console.saying said) ∧
          linked.reset = merged.reset := by
  induction paths generalizing console loaded merged with
  | nil => exact ⟨[], loaded, by rw [Console.saying_nil]; rfl, same⟩
  | cons path rest hypothesis =>
    rw [List.foldlM_cons, List.foldlM_cons]
    cases given : Snapshot.read console.disk path with
    | error problem =>
      have plain : Snapshot.readNext console.disk merged path = .error problem := by
        rw [Snapshot.readNext, given]
        rfl
      refine ⟨[], ?_⟩
      rw [plain, Console.saying_nil]
      exact Work.run_bind_error (run_loadNext_error loaded given)
    | ok snapshot =>
      have plain : Snapshot.readNext console.disk merged path =
          .ok (merged.merge snapshot.instantiate.modules) := by
        rw [Snapshot.readNext, given]
        rfl
      -- The next file is linked with what was loaded, and merging it keeps the two sides alike.
      have still : ModuleSet.reset (loaded.merge (snapshot.load loaded).modules) =
          ModuleSet.reset (merged.merge snapshot.instantiate.modules) := by
        rw [ModuleSet.reset_merge, ModuleSet.reset_merge, same, Snapshot.reset_load]
      obtain ⟨said, first⟩ := run_loadNext_ok loaded given
      obtain ⟨more, others⟩ := hypothesis (console.saying said) still
      refine ⟨said ++ more, ?_⟩
      rw [plain, Work.run_bind_ok first, ← Console.saying_saying]
      exact others

theorem run_load (config : Config) (path : Path) (previous : List Path) {linked : ModuleSet}
    {console after : Console} (loaded : (loadAll previous).run console = (.ok linked, after)) :
    (run config (.load path previous)).run console =
      match Snapshot.loadFile after.disk path linked with
      | .error problem => (.error problem, after)
      | .ok result => (.ok (), after.saying (loadSummary path result)) := by
  rw [run, Work.run_bind_ok loaded]
  have looked := Console.run_look after fun disk => Snapshot.loadFile disk path linked
  cases given : Snapshot.loadFile after.disk path linked with
  | error problem =>
    rw [given] at looked
    exact Work.run_bind_error looked
  | ok result =>
    rw [given] at looked
    rw [Work.run_bind_ok looked, Console.run_say]

/-- Linking looks past all that linking added to the modules it looks names up in, and linking
again changes and resolves nothing. So loading a file after others, each of them linked with
those before it, ends as loading it after the modules that were merely read from the others and
merged: the same modules, failures and unresolved references, and the same lines about them. -/
theorem link_ignores_links :
    (∀ modules previous earlier : ModuleSet,
      previous.reset = earlier.reset →
        modules.link previous = modules.link earlier) ∧
    (∀ modules previous : ModuleSet,
      (modules.link previous).1.link previous =
        ((modules.link previous).1, ⟨0, (modules.link previous).2.unresolved⟩)) ∧
    ∀ (config : Config) (console : Console) (path : Path) (previous : List Path),
      ∃ said, match Snapshot.readAll console.disk previous with
        | .error problem =>
          (run config (.load path previous)).run console = (.error problem, console.saying said)
        | .ok merged => ∃ linked,
          (loadAll previous).run console = (.ok linked, console.saying said) ∧
          (∀ target : Snapshot, target.load linked = target.load merged) ∧
          (run config (.load path previous)).run console =
            match Snapshot.loadFile console.disk path merged with
            | .error problem => (.error problem, console.saying said)
            | .ok result => (.ok (), console.saying (said ++ loadSummary path result)) := by
  refine ⟨fun modules previous earlier same => modules.link_congr same,
    ModuleSet.link_link_same, fun config console path previous => ?_⟩
  obtain ⟨said, ends⟩ := run_foldlM_loadNext previous console
    (rfl : ModuleSet.reset NameMap.empty = ModuleSet.reset NameMap.empty)
  refine ⟨said, ?_⟩
  rw [← loadAll_eq] at ends
  rw [Snapshot.readAll]
  split
  next problem refused =>
    rw [refused] at ends
    exact Work.run_bind_error ends
  next merged given =>
    rw [given] at ends
    obtain ⟨linked, loaded, same⟩ := ends
    refine ⟨linked, loaded, fun target => target.load_congr same, ?_⟩
    rw [run_load config path previous loaded, Console.disk_saying,
      Snapshot.loadFile_congr _ path same]
    simp only [Console.saying_saying]

/-- A module that is linked with another, and the same module before it was linked. -/
theorem link_ignores_links_page :
    let variableBody : DeclarationBody :=
      ⟨"width", "page.width", .variable ⟨some (.toKey "rule.Length"), false, false, none⟩, none,
        none⟩
    let previous := ModuleSet.add NameMap.empty
      ((Module.skeleton "page" ⟨"page.py"⟩).add none variableBody)
    let linked := (previous.link NameMap.empty).1
    let modules := ModuleSet.add NameMap.empty { Module.skeleton "book" ⟨"book.py"⟩ with
      imports := [⟨"breadth", .pending "page.width"⟩] }
    linked.get? "page" ≠ previous.get? "page" ∧
      linked.reset = previous.reset ∧
      modules.link linked = modules.link previous := by
  intro variableBody previous linked modules
  have same : linked.reset = previous.reset :=
    previous.reset_link NameMap.empty
  exact ⟨by decide, same, link_ignores_links.1 modules linked previous same⟩

end Command

end Declarations
