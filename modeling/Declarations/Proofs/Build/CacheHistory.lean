/-
This file proves that a cache cannot be seen in what a build reads. Whatever happened to the
cache before, as long as its entries were written by builds, every build that uses it reads
the same modules and reports the same failures as one without.
-/

import Declarations.Proofs.Build.Reuse
import Declarations.Proofs.Build.Work

namespace Declarations

namespace Analysis

/-- How a build with a cache may end: the directories of the cache cannot be made, the manifest is
corrupt or cannot be written, or all went well. -/
inductive Ends (disk : Disk) (sources : List BuildSource) (options : BuildOptions)
    (cache : Cache) : Except Problem Analysis × Disk → Prop
  | unopened (fault : DiskFault) (refused : disk.makeDirectories cache.entries = .error fault) :
      Ends disk sources options cache (.error (.disk none fault), disk)
  | corrupt (problem : Problem) (opened : Disk)
      (made : disk.makeDirectories cache.entries = .ok opened) :
      Ends disk sources options cache (.error problem, opened)
  | unwritten (fault : DiskFault) (opened : Disk) (usable : Option Cache)
      (made : disk.makeDirectories cache.entries = .ok opened)
      (only : ∀ other ∈ usable, other = cache) :
      Ends disk sources options cache
        (.error (.disk none fault), store cache (visitUsing opened options usable sources) opened)
  | done (opened written : Disk) (usable : Option Cache) (manifest : Manifest)
      (made : disk.makeDirectories cache.entries = .ok opened)
      (only : ∀ other ∈ usable, other = cache)
      (success : (store cache (visitUsing opened options usable sources) opened).write
        cache.manifestPath (.text manifest.toJson.pretty) = .ok written) :
      Ends disk sources options cache
        (.ok (ofProgress options.followImports (visitUsing opened options usable sources)), written)

theorem eq_of_mem_usable? (options : BuildOptions) (cache : Cache) (manifest : Option Manifest)
    (inputs : String) : ∀ other ∈ usable? options cache manifest inputs, other = cache := by
  intro other member
  unfold usable? at member
  split at member
  · exact (Option.mem_some.mp member).symm
  · cases member

/-- A build with a cache makes the directories of the cache, looks for the manifest, reads, stores
the modules and writes the manifest. -/
theorem run_runCached (disk : Disk) (sources : List BuildSource) (options : BuildOptions)
    {cache : Cache} (isCache : cache = ⟨options.cacheDir, version, options.skipVersionCheck⟩) :
    (runCached sources options).run disk =
      match disk.makeDirectories cache.entries with
      | .error fault => (.error (.disk none fault), disk)
      | .ok opened =>
        match cache.manifest? opened with
        | .error problem => (.error problem, opened)
        | .ok manifest =>
          let inputs := inputsFingerprint opened options sources
          let progress := visitUsing opened options (usable? options cache manifest inputs) sources
          match (store cache progress opened).write cache.manifestPath
              (.text (manifestOf inputs progress).toJson.pretty) with
          | .error fault => (.error (.disk none fault), store cache progress opened)
          | .ok written => (.ok (ofProgress options.followImports progress), written) := by
  have openAt : Cache.openAt options.cacheDir version options.skipVersionCheck =
      (Work.onDisk fun disk => disk.makeDirectories cache.entries) >>= fun _ => pure cache := by
    rw [isCache]
    rfl
  unfold runCached
  rw [openAt, bind_assoc]
  simp only [pure_bind]
  cases made : disk.makeDirectories cache.entries with
  | error fault => exact Work.run_bind_error (Work.run_onDisk_error made)
  | ok opened =>
    rw [Work.run_bind_ok (Work.run_onDisk_ok made)]
    dsimp only
    cases read : cache.manifest? opened with
    | error problem => exact Work.run_bind_error (Work.run_look_error read)
    | ok manifest =>
      rw [Work.run_bind_ok (Work.run_look_ok read), Work.run_bind_ok Work.run_get,
        Work.run_bind_ok (Work.run_modify _)]
      unfold Cache.writeManifest
      dsimp only
      split
      next fault refused => exact Work.run_bind_error (Work.run_onDisk_error refused)
      next written success =>
        rw [Work.run_bind_ok (Work.run_onDisk_ok success)]
        rfl

theorem ends_runCached (disk : Disk) (sources : List BuildSource) (options : BuildOptions) :
    Ends disk sources options ⟨options.cacheDir, version, options.skipVersionCheck⟩
      ((runCached sources options).run disk) := by
  rw [run_runCached disk sources options rfl]
  split
  next fault refused => exact .unopened fault refused
  next opened made =>
    split
    next problem _ => exact .corrupt problem opened made
    next manifest _ =>
      have only := eq_of_mem_usable? options
        ⟨options.cacheDir, version, options.skipVersionCheck⟩ manifest
        (inputsFingerprint opened options sources)
      dsimp only
      split
      next fault _ => exact .unwritten fault opened _ made only
      next written success => exact .done opened written _ _ made only success

theorem ends_run (disk : Disk) (sources : List BuildSource) {options : BuildOptions}
    (incremental : options.incremental = true) :
    Ends disk sources options ⟨options.cacheDir, version, options.skipVersionCheck⟩
      ((run sources options).run disk) := by
  rw [run, if_pos incremental]
  exact ends_runCached disk sources options

end Analysis

/-! ### Histories -/

namespace Cache

/-- The cache at a directory, as the present version uses it. -/
def ofDirectory (directory : Path) : Cache :=
  ⟨directory, Analysis.version, false⟩

/-- The disk with the directories of a cache, as a build finds it. -/
def opened (cache : Cache) (disk : Disk) : Disk :=
  (disk.makeDirectories cache.entries).toOption.getD disk

theorem opened_eq {cache : Cache} {disk made : Disk}
    (success : disk.makeDirectories cache.entries = .ok made) : cache.opened disk = made := by
  rw [opened, success]
  rfl

theorem opened_of_has {cache : Cache} {disk : Disk} (has : disk.Has cache.entries) :
    cache.opened disk = disk :=
  opened_eq has.makeDirectories_eq

/-- The entry of a name that the next build finds. -/
def shown (cache : Cache) (disk : Disk) (name : String) : Option CacheEntry :=
  cache.entry? (cache.opened disk) name

/-- Where no file on the disk can be read as an entry, no entry is found. -/
theorem shown_eq_none {cache : Cache} {disk : Disk}
    (bare : ∀ stands ∈ (cache.opened disk).entries, ∀ text,
      stands.2 = .file (.text text) → CacheEntry.ofText? text = none) (name : String) :
    cache.shown disk name = none := by
  unfold shown entry?
  cases read : (cache.opened disk).readText (cache.entryPath name) with
  | error fault => rfl
  | ok text =>
    obtain ⟨place, stands⟩ := Disk.mem_of_readText read
    exact bare _ stands text rfl

end Cache

/-- The disks that builds with a cache at a directory may leave, and what the builds read. The cache
starts without entries. Between builds the disk may change at will, except that an entry stays
as it was or can no longer be read. -/
inductive CacheHistory (directory : Path) : List Origin → Disk → Prop
  | start {disk : Disk}
      (bare : ∀ name, (Cache.ofDirectory directory).shown disk name = none) :
      CacheHistory directory [] disk
  | change {origins : List Origin} {before after : Disk}
      (history : CacheHistory directory origins before)
      (kept : ∀ name,
        (Cache.ofDirectory directory).shown after name =
            (Cache.ofDirectory directory).shown before name ∨
          (Cache.ofDirectory directory).shown after name = none) :
      CacheHistory directory origins after
  | build {origins : List Origin} {disk : Disk} (history : CacheHistory directory origins disk)
      (sources : List BuildSource) (options : BuildOptions)
      (incremental : options.incremental = true) (here : options.cacheDir = directory) :
      CacheHistory directory
        (origins ++
          Analysis.origins ((Cache.ofDirectory directory).opened disk) options sources)
        ((Analysis.run sources options).run disk).2

namespace Analysis

variable {cache : Cache} {before : List Origin} {disk : Disk} {options : BuildOptions}
  {sources : List BuildSource}

/-- A build keeps the entries faithful, whatever becomes of it. -/
theorem Ends.faithful {outcome : Except Problem Analysis × Disk}
    (ends : Ends disk sources options cache outcome)
    (faithful : cache.Faithful before (cache.opened disk))
    (apart : Origin.Apart (before ++ origins (cache.opened disk) options sources)) :
    cache.Faithful (before ++ origins (cache.opened disk) options sources)
      (cache.opened outcome.2) := by
  have now := faithful.mono fun origin member =>
    List.mem_append_left (origins (cache.opened disk) options sources) member
  cases ends with
  | unopened fault refused => exact now
  | corrupt problem opened made =>
    rw [Cache.opened_eq made] at now ⊢
    rw [Cache.opened_of_has (Disk.has_of_makeDirectories made)]
    exact now
  | unwritten fault opened usable made only =>
    rw [Cache.opened_eq made] at faithful apart ⊢
    obtain ⟨has, stored⟩ :=
      faithful_store_visits (Disk.has_of_makeDirectories made) faithful apart usable only
    rw [Cache.opened_of_has has]
    exact stored
  | done opened written usable manifest made only success =>
    rw [Cache.opened_eq made] at faithful apart ⊢
    obtain ⟨has, stored⟩ :=
      faithful_store_visits (Disk.has_of_makeDirectories made) faithful apart usable only
    rw [Cache.opened_of_has (has.write success)]
    exact stored.write (Cache.harmless_pretty manifest) success

end Analysis

namespace CacheHistory

variable {directory : Path} {origins : List Origin} {disk : Disk}

/-- After any history every entry that can be read is what one of the files gave that were read. -/
theorem faithful (history : CacheHistory directory origins disk) (apart : Origin.Apart origins) :
    (Cache.ofDirectory directory).Faithful origins ((Cache.ofDirectory directory).opened disk) := by
  induction history with
  | start bare =>
    intro name entry module shown
    rw [← Cache.shown, bare name] at shown
    cases shown
  | change history kept inductionHypothesis =>
    intro name entry module shown
    rcases kept name with same | gone
    · rw [← Cache.shown, same] at shown
      exact inductionHypothesis apart name entry module shown
    · rw [← Cache.shown, gone] at shown
      cases shown
  | @build origins disk history sources options incremental here inductionHypothesis =>
    have earlier := inductionHypothesis (apart.mono fun origin => List.mem_append_left _)
    have ends := Analysis.ends_run disk sources incremental
    subst here
    exact ends.faithful earlier apart

/-- A build with a cache reads the same modules and reports the same failures as one without on
the same files. The latter finds the directories of the cache as well, which the build with the
cache makes where they are missing. -/
theorem run_transparent (history : CacheHistory directory origins disk)
    {sources : List BuildSource} {options : BuildOptions}
    (incremental : options.incremental = true) (here : options.cacheDir = directory)
    (apart : Origin.Apart (origins ++
      Analysis.origins ((Cache.ofDirectory directory).opened disk) options sources))
    {analysis : Analysis} {after : Disk}
    (success : (Analysis.run sources options).run disk = (.ok analysis, after)) :
    ∃ opened, disk.makeDirectories (directory.join "modules") = .ok opened ∧
      (disk.isDirectory (directory.join "modules") = true → opened = disk) ∧
      ∃ fresh, (Analysis.run sources { options with incremental := false }).run opened =
          (.ok fresh, opened) ∧
        analysis.modules = fresh.modules ∧ analysis.failures = fresh.failures := by
  have earlier := history.faithful (apart.mono fun origin => List.mem_append_left _)
  have ends := Analysis.ends_run disk sources incremental
  rw [success] at ends
  subst here
  cases ends with
  | done opened written usable manifest made only written =>
    have found : (Cache.ofDirectory options.cacheDir).opened disk = opened := Cache.opened_eq made
    rw [found] at earlier apart
    have faithful : Cache.Faithful ⟨options.cacheDir, Analysis.version, options.skipVersionCheck⟩
        origins opened := earlier
    have same := Analysis.anew_visitAll_read faithful apart usable only
    refine ⟨opened, made, fun directory => ?_, ?_⟩
    · have unchanged := (Disk.has_of_isDirectory directory).makeDirectories_eq
      exact Except.ok.inj (made.symm.trans unchanged)
    · refine ⟨_, rfl, ?_⟩
      have results := Analysis.same_ofProgress_anew options.followImports
        (Analysis.visitUsing opened options usable sources)
      rw [same] at results
      exact results

/-! ### A second build of an empty file -/

/-- A disk with an empty source file. -/
def sampleDisk : Disk :=
  ⟨[(["a.py"], .file (.text ""))], []⟩

/-- That file. -/
def sampleSources : List BuildSource :=
  [⟨⟨"a.py"⟩, "a", ⟨""⟩⟩]

/-- The options of a build with a cache. -/
def sampleOptions : BuildOptions :=
  { BuildOptions.default with incremental := true, cacheDir := ⟨"cache"⟩ }

/-- The disk after the file was built once. -/
def sampleBuilt : Disk :=
  ((Analysis.run sampleSources sampleOptions).run sampleDisk).2

/-- The second build takes the module from the cache, and one without a cache reads the same. -/
theorem run_transparent_second :
    ∃ analysis after opened fresh,
      (Analysis.run sampleSources sampleOptions).run sampleBuilt = (.ok analysis, after) ∧
        analysis.cached = 1 ∧
        (Analysis.run sampleSources { sampleOptions with incremental := false }).run opened =
          (.ok fresh, opened) ∧
        analysis.modules = fresh.modules ∧ analysis.failures = fresh.failures := by
  have bare : ∀ stands ∈ ((Cache.ofDirectory ⟨"cache"⟩).opened sampleDisk).entries, ∀ text,
      stands.2 = .file (.text text) → CacheEntry.ofText? text = none := by
    have entries : ((Cache.ofDirectory ⟨"cache"⟩).opened sampleDisk).entries =
        [(["cache", "modules"], .directory), (["cache"], .directory),
          (["a.py"], .file (.text ""))] := by decide +kernel
    rw [entries]
    intro stands member text isText
    simp only [List.mem_cons, List.not_mem_nil, or_false] at member
    rcases member with rfl | rfl | rfl
    · cases isText
    · cases isText
    · cases isText
      rfl
  have history : CacheHistory ⟨"cache"⟩ _ sampleBuilt :=
    (start (Cache.shown_eq_none bare)).build sampleSources sampleOptions rfl rfl
  have counted : ((Analysis.run sampleSources sampleOptions).run sampleBuilt).1.toOption.map
      (·.cached) = some 1 := by decide +kernel
  have first : Analysis.origins ((Cache.ofDirectory ⟨"cache"⟩).opened sampleDisk) sampleOptions
      sampleSources = [⟨⟨"a.py"⟩, sampleOptions, ""⟩] := by decide +kernel
  have second : Analysis.origins ((Cache.ofDirectory ⟨"cache"⟩).opened sampleBuilt) sampleOptions
      sampleSources = [⟨⟨"a.py"⟩, sampleOptions, ""⟩] := by decide +kernel
  have apart : Origin.Apart (([] ++ Analysis.origins ((Cache.ofDirectory ⟨"cache"⟩).opened
      sampleDisk) sampleOptions sampleSources) ++ Analysis.origins ((Cache.ofDirectory
        ⟨"cache"⟩).opened sampleBuilt) sampleOptions sampleSources) := by
    rw [first, second]
    have only : ∀ origin ∈ ([] ++ [⟨⟨"a.py"⟩, sampleOptions, ""⟩]) ++
        [⟨⟨"a.py"⟩, sampleOptions, ""⟩], origin = Origin.mk ⟨"a.py"⟩ sampleOptions "" := by
      simp
    refine ⟨fun origin member => ?_, fun first member second other _ => ?_⟩
    · rw [only origin member]
      exact (by decide : '\n' ∉ "a.py".toList)
    · rw [only first member, only second other]
  cases success : (Analysis.run sampleSources sampleOptions).run sampleBuilt with
  | mk result after =>
    rw [success] at counted
    cases result with
    | error problem => cases counted
    | ok analysis =>
      obtain ⟨opened, _, _, fresh, plain, modules, failures⟩ :=
        run_transparent history rfl rfl apart success
      exact ⟨analysis, after, opened, fresh, rfl, Option.some.inj counted, plain, modules, failures⟩

end CacheHistory

end Declarations
