/-
This file proves that a cache gives back what was stored in it. The files of its entries and of
its manifest stand at different places as long as names have no slash, so writing one leaves
the others as they were: after the modules of a build and a manifest were written, each of
these modules is found under its name and fingerprint, and entries of other names are what
they were. A manifest that was written is found, too.
-/

import Declarations.Proofs.Build.Accounting
import Declarations.Proofs.Disk.Frames

namespace Declarations

open Disk (ChangesOnly Wrote)
open Declarations.Path (IsName)

/-- Whether a place is that of a file of JSON, by its name. -/
def Place.IsJson (place : Place) : Prop :=
  ∃ above stem, place = above ++ [stem ++ ".json"]

/-- Whether the text of the entry of a module does not nest too deep to be read. -/
def Module.Shallow (module : Module) : Prop :=
  (ModuleEntry.ofModule module).toJson.nesting < Json.depthLimit

instance (module : Module) : Decidable module.Shallow :=
  inferInstanceAs (Decidable (_ < _))

namespace Cache

variable {cache : Cache} {disk opened stored after : Disk} {place : Place}
  {module : Module} {name other fingerprint : String}

/-! ### Texts -/

/-- The text of an entry that does not nest too deep is read as that entry. -/
theorem ofText?_entryText_of_shallow (shallow : module.Shallow) (fingerprint : String) :
    CacheEntry.ofText? (cache.entryText module fingerprint) =
      some ⟨cache.version, fingerprint,
        (ModuleEntry.ofModule module).mapReferences Reference.forget⟩ := by
  let entry : CacheEntry := ⟨cache.version, fingerprint, ModuleEntry.ofModule module⟩
  have nested : entry.toJson.nesting = (ModuleEntry.ofModule module).toJson.nesting + 1 := by
    simp [entry, CacheEntry.toJson, Json.nesting, Json.nestingFields]
  have taken : CachePart.plan.taken .entry entry.toJson = entry.toJson :=
    CachePart.taken_entry entry
  have fits : (CachePart.plan.taken .entry entry.toJson).nesting ≤ Json.depthLimit := by
    rw [taken, nested]
    exact shallow
  refine (CachePart.ofText?_render_of_shallow (CacheEntry.plain_ofModule _ _ module) fits).trans ?_
  rw [taken, CacheEntry.ofJson_ofModule]
  rfl

theorem accepts_version (cache : Cache) : cache.accepts cache.version = true := by
  rw [accepts, beq_self_eq_true, Bool.or_true]

/-- A module is found where the text of its entry stands. -/
theorem get?_of_readText (fresh : module.Fresh) (shallow : module.Shallow)
    (read : (disk.readText (cache.entryPath module.name)).toOption =
      some (cache.entryText module fingerprint)) :
    cache.get? disk module.name fingerprint = some module := by
  have shown : cache.entry? disk module.name =
      some ⟨cache.version, fingerprint,
        (ModuleEntry.ofModule module).mapReferences Reference.forget⟩ :=
    Option.bind_eq_some_iff.mpr ⟨_, read, ofText?_entryText_of_shallow shallow fingerprint⟩
  have made : ((ModuleEntry.ofModule module).mapReferences Reference.forget).toModule =
      .ok module := by
    rw [ModuleEntry.toModule_forget_ofModule fresh.ordered, fresh.reset_eq]
  rw [get?, shown]
  simp [made, accepts_version, Except.toOption]

/-- What is found depends on the text of the entry. -/
theorem get?_congr (same : (after.readText (cache.entryPath name)).toOption =
    (disk.readText (cache.entryPath name)).toOption) (fingerprint : String) :
    cache.get? after name fingerprint = cache.get? disk name fingerprint := by
  unfold get? entry?
  rw [same]

/-- A manifest is found where its text stands. -/
theorem manifest?_of_readText {manifest : Manifest} (isVersion : manifest.version = cache.version)
    (read : disk.readText cache.manifestPath = .ok manifest.toJson.pretty) :
    cache.manifest? disk = .ok (some manifest) := by
  have there : disk.exists? cache.manifestPath = true := by
    unfold Disk.exists?
    unfold Disk.readText at read
    cases found : disk.find cache.manifestPath with
    | ok entry => rfl
    | error fault =>
      rw [found] at read
      cases read
  have whole : Manifest.ofText? manifest.toJson.pretty = some manifest := by
    have taken := CachePart.taken_manifest manifest
    refine (CachePart.ofText?_render_of_shallow manifest.plain_toJson
      (taken.symm ▸ manifest.nesting_toJson)).trans ?_
    rw [taken, manifest.ofJson_toJson]
    rfl
  unfold manifest?
  rw [there, read]
  dsimp only
  rw [whole]
  dsimp only
  rw [isVersion, accepts_version]
  rfl

/-! ### Places -/

/-- The file name of an entry. -/
theorem isName_entryFile (plain : '/' ∉ name.toList) : IsName (name ++ ".json") := by
  have written : (name ++ ".json").toList = name.toList ++ ".json".toList :=
    String.toList_append
  have long : ".json".toList.length ≤ (name ++ ".json").toList.length := by
    rw [written, List.length_append]
    exact Nat.le_add_left _ _
  have shorter {text : String} (short : text.toList.length < ".json".toList.length) :
      name ++ ".json" ≠ text := by
    rintro rfl
    exact absurd long (Nat.not_le_of_lt short)
  refine ⟨shorter (by decide), ?_, shorter (by decide), shorter (by decide)⟩
  rw [written, List.mem_append, not_or]
  exact ⟨plain, by decide⟩

/-- Where the file of an entry stands. -/
theorem locate_entryPath_iff (plain : '/' ∉ name.toList) :
    disk.locate (cache.entryPath name) = .ok place ↔
      ∃ above, disk.base? cache.directory = .ok above ∧ disk.entry? above = some .directory ∧
        disk.entry? (above ++ ["modules"]) = some .directory ∧
        place = above ++ ["modules", name ++ ".json"] := by
  have isModules : IsName "modules" := by decide
  have filled : cache.entries.text.isEmpty = false := Disk.isEmpty_join isModules _
  have based (middle : Place) : disk.base? cache.entries = .ok middle ↔
      ∃ above, disk.base? cache.directory = .ok above ∧ disk.entry? above = some .directory ∧
        middle = above ++ ["modules"] := by
    rw [Disk.base?, filled, if_neg Bool.false_ne_true]
    exact Disk.locate_join_iff isModules
  rw [entryPath, Disk.locate_join_iff (isName_entryFile plain)]
  constructor
  · rintro ⟨middle, isBase, directory, rfl⟩
    obtain ⟨above, aboveBase, aboveDirectory, rfl⟩ := (based middle).mp isBase
    exact ⟨above, aboveBase, aboveDirectory, directory, by simp⟩
  · rintro ⟨above, aboveBase, aboveDirectory, directory, rfl⟩
    exact ⟨_, (based _).mpr ⟨above, aboveBase, aboveDirectory, rfl⟩, directory, by simp⟩

/-- Where the file of the manifest stands. -/
theorem locate_manifestPath_iff :
    disk.locate cache.manifestPath = .ok place ↔
      ∃ above, disk.base? cache.directory = .ok above ∧ disk.entry? above = some .directory ∧
        place = above ++ ["manifest.json"] :=
  Disk.locate_join_iff (by decide)

/-- Entries of different names do not stand at one place. -/
theorem eq_of_locate_entryPath (plain : '/' ∉ name.toList) (otherPlain : '/' ∉ other.toList)
    (here : disk.locate (cache.entryPath name) = .ok place)
    (there : disk.locate (cache.entryPath other) = .ok place) : name = other := by
  obtain ⟨above, base, -, -, rfl⟩ := (locate_entryPath_iff plain).mp here
  obtain ⟨again, sameBase, -, -, same⟩ := (locate_entryPath_iff otherPlain).mp there
  cases base.symm.trans sameBase
  simpa using same

/-- No entry stands at the place of the manifest. -/
theorem locate_manifestPath_ne (plain : '/' ∉ name.toList)
    (here : disk.locate (cache.entryPath name) = .ok place) :
    disk.locate cache.manifestPath ≠ .ok place := by
  intro there
  obtain ⟨above, base, -, -, rfl⟩ := (locate_entryPath_iff plain).mp here
  obtain ⟨again, sameBase, -, same⟩ := locate_manifestPath_iff.mp there
  cases base.symm.trans sameBase
  simp at same

/-! ### Storing several modules -/

/-- The disk with the entries of some modules, where each of them can be written. -/
def putAll (cache : Cache) (kept : List Reading) (disk : Disk) : Except DiskFault Disk :=
  kept.foldlM (fun disk reading => cache.put reading.module reading.fingerprint disk) disk

/-- Whether the entry of one of some modules stands at a place. -/
def EntryPlace (cache : Cache) (disk : Disk) (kept : List Reading) (place : Place) : Prop :=
  ∃ reading ∈ kept, disk.locate (cache.entryPath reading.module.name) = .ok place

variable {kept : List Reading}

theorem putAll_cons {reading : Reading}
    (success : cache.putAll (reading :: kept) disk = .ok stored) :
    ∃ written, cache.put reading.module reading.fingerprint disk = .ok written ∧
      cache.putAll kept written = .ok stored := by
  unfold putAll at success
  rw [List.foldlM_cons] at success
  cases first : cache.put reading.module reading.fingerprint disk with
  | error fault =>
    rw [first] at success
    cases success
  | ok written =>
    rw [first] at success
    exact ⟨written, rfl, success⟩

/-- Storing changes nothing but the entries of the modules, and each of them has its text then. -/
theorem stored_of_putAll (plain : ∀ reading ∈ kept, '/' ∉ reading.module.name.toList)
    (distinct : (kept.map (·.module.name)).Nodup) (success : cache.putAll kept disk = .ok stored) :
    ChangesOnly (cache.EntryPlace disk kept) disk stored ∧
      ∀ reading ∈ kept, stored.readText (cache.entryPath reading.module.name) =
        .ok (cache.entryText reading.module reading.fingerprint) := by
  induction kept generalizing disk with
  | nil =>
    cases success
    exact ⟨.refl _, fun _ member => nomatch member⟩
  | cons reading rest inductionHypothesis =>
    obtain ⟨written, first, others⟩ := putAll_cons success
    obtain ⟨place, located, wrote⟩ := Disk.wrote_of_write first
    obtain ⟨unlike, distinctRest⟩ := List.nodup_cons.mp distinct
    have plainRest := fun other member => plain other (List.mem_cons_of_mem reading member)
    obtain ⟨changes, read⟩ := inductionHypothesis plainRest distinctRest others
    refine ⟨(wrote.changesOnly.mono ?_).trans (changes.mono ?_), fun other member => ?_⟩
    · rintro _ rfl
      exact ⟨reading, List.mem_cons_self, located⟩
    · rintro there ⟨other, member, found⟩
      exact ⟨other, List.mem_cons_of_mem _ member, (wrote.locate_iff _ _).mp found⟩
    · rcases List.mem_cons.mp member with rfl | later
      · have still := (wrote.locate_iff _ _).mpr located
        rw [changes.readText_eq still]
        · exact Disk.readText_of_write first
        · -- The entry is written once only, since no other module has its name.
          rintro ⟨twin, among, found⟩
          refine unlike (List.mem_map.mpr ⟨twin, among, ?_⟩)
          exact eq_of_locate_entryPath (plainRest twin among) (plain other member) found still
      · exact read other later

theorem store_eq_of_putAll {progress : Analysis.Progress}
    (success : cache.putAll ((Analysis.readings progress).filter (·.isFresh)) disk = .ok stored) :
    Analysis.store cache progress disk = stored := by
  unfold Analysis.store
  generalize (Analysis.readings progress).filter (·.isFresh) = kept at success ⊢
  induction kept generalizing disk with
  | nil =>
    cases success
    rfl
  | cons reading rest inductionHypothesis =>
    obtain ⟨written, first, others⟩ := putAll_cons success
    rw [List.foldl_cons, first]
    exact inductionHypothesis others

/-! ### A cache that was written -/

/-- What a cache holds after some modules were written: they are found, and what was found under
other names still is. Only files of the cache changed. -/
structure Holds (cache : Cache) (kept : List Reading) (before after : Disk) : Prop where
  stored : ∀ reading ∈ kept,
    cache.get? after reading.module.name reading.fingerprint = some reading.module
  others : ∀ name fingerprint, '/' ∉ name.toList → name ∉ kept.map (·.module.name) →
    cache.get? after name fingerprint = cache.get? before name fingerprint
  changes : ChangesOnly Place.IsJson before after

/-- Writing the modules of a build and then a manifest gives a cache that holds them. -/
theorem holds_of_write {content : FileContent}
    (plain : ∀ reading ∈ kept, '/' ∉ reading.module.name.toList)
    (distinct : (kept.map (·.module.name)).Nodup)
    (fresh : ∀ reading ∈ kept, reading.module.Fresh)
    (shallow : ∀ reading ∈ kept, reading.module.Shallow)
    (success : cache.putAll kept disk = .ok stored)
    (written : stored.write cache.manifestPath content = .ok after) :
    cache.Holds kept disk after := by
  obtain ⟨changes, read⟩ := stored_of_putAll plain distinct success
  obtain ⟨place, located, wrote⟩ := Disk.wrote_of_write written
  have apart {name : String} (isPlain : '/' ∉ name.toList) :
      (after.readText (cache.entryPath name)).toOption =
        (stored.readText (cache.entryPath name)).toOption := by
    refine wrote.changesOnly.toOption_readText ?_
    rintro _ found rfl
    exact locate_manifestPath_ne isPlain found located
  refine ⟨?_, ?_, (changes.mono ?_).trans (wrote.changesOnly.mono ?_)⟩
  · intro reading member
    refine get?_of_readText (fresh reading member) (shallow reading member) ?_
    rw [apart (plain reading member), read reading member]
    rfl
  · intro name fingerprint isPlain unlike
    refine get?_congr ((apart isPlain).trans (changes.toOption_readText ?_)) fingerprint
    rintro place found ⟨twin, among, also⟩
    refine unlike (List.mem_map.mpr ⟨twin, among, ?_⟩)
    exact eq_of_locate_entryPath (plain twin among) isPlain also found
  · rintro place ⟨reading, member, found⟩
    obtain ⟨above, -, -, -, rfl⟩ := (locate_entryPath_iff (plain reading member)).mp found
    exact ⟨above ++ ["modules"], reading.module.name, by simp⟩
  · rintro _ rfl
    obtain ⟨above, -, -, rfl⟩ := locate_manifestPath_iff.mp located
    exact ⟨above, "manifest", rfl⟩

end Cache

end Declarations
