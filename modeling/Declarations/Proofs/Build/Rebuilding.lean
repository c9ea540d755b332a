/-
This file proves that a build takes from the cache all that the build before it read, and gives the
same. The first build leaves every module that it read where the second one looks for it, so
each file is read as before, now from the cache, and leads to the same files; and a file that
failed fails again, since it has no entry. What must be known for this is that the cache can
tell the files apart, and three builds show that this cannot be left out.
-/

import Declarations.Proofs.Build.Reordering
import Declarations.Proofs.Build.Searching

namespace Declarations

open Disk (ChangesOnly)

namespace Analysis

/-! ### What a build reads anew -/

variable {disk opened : Disk} {options : BuildOptions} {usable : Option Cache}
  {sources : List BuildSource}

/-- The modules that were read anew. -/
def freshReadings (progress : Progress) : List Reading :=
  (readings progress).filter (·.isFresh)

theorem mem_freshReadings {progress : Progress} {reading : Reading} :
    reading ∈ freshReadings progress ↔
      (∃ visit ∈ progress.visits, visit.outcome = .ok reading) ∧ reading.isFresh = true := by
  unfold freshReadings readings
  rw [List.mem_filter, List.mem_filterMap]
  refine and_congr_left' (exists_congr fun visit => and_congr_right' ?_)
  cases visit.outcome with
  | ok other => exact ⟨fun same => congrArg _ (Option.some.inj same), fun same => congrArg _ same⟩
  | error problem => exact ⟨nofun, nofun⟩

theorem areNamed_visitUsing (disk : Disk) (options : BuildOptions) (usable : Option Cache)
    (sources : List BuildSource) : AreNamed (visitUsing disk options usable sources).visits :=
  fun visit member _ outcome =>
    name_of_read ((faithful_visitAll sources visit member).symm.trans outcome)

theorem names_sublist {visits : List Visit} (named : AreNamed visits) :
    List.Sublist ((visits.filterMap (·.outcome.toOption)).map (·.module.name))
      (visits.map (·.source.module)) := by
  induction visits with
  | nil => exact .slnil
  | cons visit rest inductionHypothesis =>
    obtain ⟨first, others⟩ := List.forall_mem_cons.mp named
    have behind := inductionHypothesis others
    cases outcome : visit.outcome with
    | error problem =>
      rw [List.filterMap_cons_none (by rw [outcome]; rfl), List.map_cons]
      exact behind.cons _
    | ok reading =>
      rw [List.filterMap_cons_some (by rw [outcome]; rfl), List.map_cons, List.map_cons,
        first reading outcome]
      exact behind.cons_cons _

/-- No two modules that were read have the same name. -/
theorem nodup_readings (disk : Disk) (options : BuildOptions) (usable : Option Cache)
    (distinct : (sources.map (·.module)).Nodup) :
    ((readings (visitUsing disk options usable sources)).map (·.module.name)).Nodup :=
  (nodup_visited disk options usable distinct).sublist
    (names_sublist (areNamed_visitUsing disk options usable sources))

/-- A name among those of modules that were read anew is only visited where such a module is
read. -/
theorem isFresh_of_mem_names (distinct : (sources.map (·.module)).Nodup) {visit : Visit}
    (member : visit ∈ (visitUsing disk options usable sources).visits)
    (among : visit.source.module ∈
      (freshReadings (visitUsing disk options usable sources)).map (·.module.name)) :
    ∃ reading, visit.outcome = .ok reading ∧ reading.isFresh = true := by
  obtain ⟨reading, kept, named⟩ := List.mem_map.mp among
  obtain ⟨⟨other, visited, outcome⟩, isFresh⟩ := mem_freshReadings.mp kept
  have same : other = visit :=
    List.inj_on_of_nodup_map (nodup_visited disk options usable distinct) visited member
      ((areNamed_visitUsing disk options usable sources other visited reading outcome).symm.trans
        named)
  exact ⟨reading, same ▸ outcome, isFresh⟩

/-! ### Reading once more -/

end Analysis

/-- A reading as one from a cache. -/
def Reading.served (reading : Reading) : Reading :=
  { reading with isFresh := false }

namespace Analysis

variable {before after disk opened : Disk} {options : BuildOptions} {usable : Option Cache}
  {sources : List BuildSource} {cache : Cache}

/-- What is made from a file is the same after a build. -/
theorem ofSource_eq (changes : ChangesOnly Place.IsJson opened after)
    (distinct : (sources.map (·.module)).Nodup)
    (unchanged : ∀ source ∈ sources,
      Origin.ofSource after options source = Origin.ofSource opened options source)
    {visit : Visit} (member : visit ∈ (visitUsing opened options usable sources).visits) :
    Origin.ofSource after options visit.source = Origin.ofSource opened options visit.source := by
  rcases visited_source_cases (valid_visitUsing opened options usable distinct) member with
    input | ⟨-, found⟩
  · exact unchanged visit.source input
  · unfold Origin.ofSource Origin.sourceText
    rw [ImportSearch.readText_eq changes found]

/-- A file that was visited is read as before, from the cache. -/
theorem read_again
    (holds : cache.Holds (freshReadings (visitUsing opened options usable sources)) opened after)
    (only : ∀ other ∈ usable, other = cache) (distinct : (sources.map (·.module)).Nodup)
    (unchanged : ∀ source ∈ sources,
      Origin.ofSource after options source = Origin.ofSource opened options source)
    {visit : Visit} (member : visit ∈ (visitUsing opened options usable sources).visits)
    (plain : '/' ∉ visit.source.module.toList)
    (unmatched : usable = none → ∀ problem origin, visit.outcome = .error problem →
      Origin.ofSource opened options visit.source = .ok origin →
        cache.get? opened visit.source.module origin.fingerprint = none) :
    Analysis.read after options (some cache) visit.source =
      visit.outcome.map Reading.served := by
  have outcome : visit.outcome = Analysis.read opened options usable visit.source :=
    faithful_visitAll sources visit member
  have same := ofSource_eq holds.changes distinct unchanged member
  cases given : Origin.ofSource opened options visit.source with
  | error problem =>
    rw [outcome, read_of_unreadable given, read_of_unreadable (same.trans given)]
    rfl
  | ok origin =>
    have others (notFresh : ∀ reading, visit.outcome = .ok reading → reading.isFresh = false) :
        cache.get? after visit.source.module origin.fingerprint =
          cache.get? opened visit.source.module origin.fingerprint := by
      refine holds.others _ _ plain fun among => ?_
      obtain ⟨reading, made, isFresh⟩ := isFresh_of_mem_names distinct member among
      cases (notFresh reading made).symm.trans isFresh
    rw [read_of_ofSource (same.trans given), Option.bind_some]
    rw [read_of_ofSource given] at outcome
    cases found : usable.bind fun cache =>
        cache.get? opened visit.source.module origin.fingerprint with
    | some module =>
      obtain ⟨taken, isUsable, got⟩ := Option.bind_eq_some_iff.mp found
      rw [only taken isUsable] at got
      rw [found] at outcome
      rw [others (by rw [outcome]; rintro _ ⟨⟩; rfl), got, outcome]
      rfl
    | none =>
      rw [found] at outcome
      dsimp only at outcome
      cases lowered : origin.lower visit.source.module with
      | ok module =>
        rw [lowered] at outcome
        have kept := mem_freshReadings.mpr ⟨⟨visit, member, outcome⟩, rfl⟩
        have stored := holds.stored _ kept
        rw [areNamed_visitUsing opened options usable sources visit member _ outcome] at stored
        rw [stored, outcome]
        rfl
      | error problem =>
        rw [lowered] at outcome
        have missing : cache.get? opened visit.source.module origin.fingerprint = none := by
          cases isUsable : usable with
          | none => exact unmatched isUsable problem origin outcome given
          | some taken =>
            rw [isUsable, Option.bind_some, only taken isUsable] at found
            exact found
        rw [others (by rw [outcome]; exact nofun), missing, outcome]
        rfl

/-- Where what was visited is read from a cache, nothing is read anew. -/
theorem freshReadings_of_served {read : BuildSource → Except Problem Reading}
    {progress again : Progress} (faithful : again.Faithful read) (anew : again.anew = progress.anew)
    (served : ∀ visit ∈ progress.visits, read visit.source = visit.outcome.map Reading.served) :
    freshReadings again = [] := by
  refine List.eq_nil_iff_forall_not_mem.mpr fun reading member => ?_
  obtain ⟨⟨visit, visited, outcome⟩, isFresh⟩ := mem_freshReadings.mp member
  have among : visit.anew ∈ progress.anew.visits := by
    rw [← anew]
    exact List.mem_map_of_mem visited
  obtain ⟨earlier, wasVisited, sameVisit⟩ := List.mem_map.mp among
  have sameSource : earlier.anew.source = visit.anew.source := congrArg Visit.source sameVisit
  have fromCache := served earlier wasVisited
  change earlier.source = visit.source at sameSource
  rw [sameSource, ← faithful visit visited, outcome] at fromCache
  cases made : earlier.outcome with
  | error problem =>
    rw [made] at fromCache
    cases fromCache
  | ok other =>
    rw [made] at fromCache
    cases fromCache
    cases isFresh

/-- Where every file that was visited is read from the cache, the same is visited again. -/
theorem visitUsing_again {progress : Progress}
    (isProgress : progress = visitUsing opened options usable sources)
    (changes : ChangesOnly Place.IsJson opened after) (distinct : (sources.map (·.module)).Nodup)
    (served : ∀ visit ∈ progress.visits, Analysis.read after options (some cache) visit.source =
      visit.outcome.map Reading.served) :
    (visitUsing after options (some cache) sources).anew = progress.anew ∧
      freshReadings (visitUsing after options (some cache) sources) = [] := by
  let again := Analysis.read after options (some cache)
  have outcomes : progress.Faithful (Analysis.read opened options usable) := by
    rw [isProgress]
    exact faithful_visitAll sources
  have first : progress.anew = visitAll opened options.followImports
      (fun source => (Analysis.read opened options usable source).map Reading.anew) sources := by
    rw [isProgress]
    exact anew_visitAll fun _ _ => rfl
  -- On the old disk both ways of reading agree, apart from what comes from a cache.
  have second : (visitAll opened options.followImports again sources).anew = progress.anew := by
    rw [first]
    refine anew_visitAll fun visit member => ?_
    rw [← first] at member
    obtain ⟨visit, visited, rfl⟩ := List.mem_map.mp member
    have fromCache : again visit.source = _ := served visit visited
    show (again visit.source).map Reading.anew =
      (Analysis.read opened options usable visit.source).map Reading.anew
    rw [fromCache, ← outcomes visit visited]
    cases visit.outcome <;> rfl
  have done : (visitAll opened options.followImports again sources).queue = [] := by
    have ended := queue_visitUsing opened options usable distinct
    rw [← isProgress] at ended
    exact (congrArg Progress.queue second).trans ended
  have same : visitUsing after options (some cache) sources = _ :=
    visitAll_eq changes done (queue_visitUsing after options (some cache) distinct)
  have anew : (visitUsing after options (some cache) sources).anew = progress.anew := by
    rw [same, second]
  exact ⟨anew, freshReadings_of_served (faithful_visitAll sources) anew served⟩

/-- Modules that all come from the cache are all counted. -/
theorem cached_ofProgress_of_served {progress : Progress} {policy : FollowImports}
    (distinct : ((readings progress).map (·.module.name)).Nodup)
    (served : freshReadings progress = []) :
    (ofProgress policy progress).cached = (ofProgress policy progress).modules.size := by
  have named : (((readings progress).map (·.module)).map (·.name)).Nodup := by
    rw [List.map_map]
    exact distinct
  rw [cached_ofProgress, modules_ofProgress, ModuleSet.size_ofModules named, List.length_map,
    Analysis.served, List.length_map, List.filter_eq_self.mpr]
  intro reading member
  have notFresh := List.filter_eq_nil_iff.mp served reading member
  simpa using notFresh

theorem store_of_served {progress : Progress} (served : freshReadings progress = []) :
    store cache progress disk = disk := by
  unfold store
  rw [show (readings progress).filter (·.isFresh) = [] from served]
  rfl

/-! ### Two builds -/

/-- What a build with the cache visits, on a disk with the directories of the cache. -/
def visitCached (opened : Disk) (options : BuildOptions) (sources : List BuildSource) : Progress :=
  let cache := cacheOf options
  let manifest := (cache.manifest? opened).toOption.join
  visitUsing opened options
    (usable? options cache manifest (inputsFingerprint opened options sources)) sources

/-- A build with the cache goes well where its directories can be made, the manifest can be read and
a new one be written. -/
theorem run_cached_iff (incremental : options.incremental = true) {analysis : Analysis} :
    (run sources options).run disk = (.ok analysis, after) ↔
      ∃ opened manifest, disk.makeDirectories (cacheOf options).entries = .ok opened ∧
        (cacheOf options).manifest? opened = .ok manifest ∧
        (store (cacheOf options) (visitCached opened options sources) opened).write
          (cacheOf options).manifestPath
          (.text (manifestOf (inputsFingerprint opened options sources)
            (visitCached opened options sources)).toJson.pretty) = .ok after ∧
        analysis = ofProgress options.followImports (visitCached opened options sources) := by
  have visits {opened : Disk} {manifest : Option Manifest}
      (found : (cacheOf options).manifest? opened = .ok manifest) :
      visitCached opened options sources = visitUsing opened options
        (usable? options (cacheOf options) manifest (inputsFingerprint opened options sources))
        sources := by
    unfold visitCached
    dsimp only
    rw [found]
    rfl
  have isCache : cacheOf options = ⟨options.cacheDir, version, options.skipVersionCheck⟩ := rfl
  rw [run, if_pos incremental, run_runCached disk sources options isCache]
  constructor
  · intro success
    split at success
    · cases success
    next opened made =>
      split at success
      · cases success
      next manifest found =>
        dsimp only at success
        rw [← visits found] at success
        split at success
        · cases success
        next written wrote =>
          cases success
          exact ⟨opened, manifest, made, found, wrote, rfl⟩
  · rintro ⟨opened, manifest, made, found, wrote, rfl⟩
    simp only [made, found, ← visits found, wrote]

/-- Whether a build leaves behind what the next one needs: all that it read anew could be written and
can be read from the cache, and the files of the inputs are as they were. -/
structure Leaves (options : BuildOptions) (sources : List BuildSource) (opened after : Disk) :
    Prop where
  stored : ∃ stored, (cacheOf options).putAll
    (freshReadings (visitCached opened options sources)) opened = .ok stored
  shallow : ∀ reading ∈ freshReadings (visitCached opened options sources), reading.module.Shallow
  unchanged : ∀ source ∈ sources, after.readText source.path = opened.readText source.path

/-- Whether the cache can tell the modules of a build apart: inputs have names of their own, each name
is that of a file, and no file that failed has an entry. A build that may use the cache looks
for such an entry itself. -/
structure Separate (options : BuildOptions) (sources : List BuildSource) (opened : Disk) :
    Prop where
  distinct : (sources.map (·.module)).Nodup
  plain : ∀ visit ∈ (visitCached opened options sources).visits,
    '/' ∉ visit.source.module.toList
  unmatched : options.fineGrained = false →
    ∀ visit ∈ (visitCached opened options sources).visits, ∀ problem origin,
      visit.outcome = .error problem →
      Origin.ofSource opened options visit.source = .ok origin →
        (cacheOf options).get? opened visit.source.module origin.fingerprint = none

/-- Whether the next build takes every module from the cache and gives what a build gave. -/
def Rebuilds (options : BuildOptions) (sources : List BuildSource) (analysis : Analysis)
    (after : Disk) : Prop :=
  ∃ again last, (run sources options).run after = (.ok again, last) ∧
    again.modules = analysis.modules ∧ again.failures = analysis.failures ∧
    again.cached = again.modules.size

theorem visitCached_eq (opened : Disk) (options : BuildOptions) (sources : List BuildSource) :
    ∃ usable, visitCached opened options sources = visitUsing opened options usable sources ∧
      (∀ cache ∈ usable, cache = cacheOf options) ∧
        (usable = none → options.fineGrained = false) := by
  refine ⟨_, rfl, eq_of_mem_usable? _ _ _ _, fun none => ?_⟩
  unfold usable? at none
  split at none
  · cases none
  next unusable =>
    rw [Bool.or_eq_true, not_or, Bool.not_eq_true] at unusable
    exact unusable.1

/-- The cache holds what a build read anew. -/
theorem holds_of_leaves (leaves : Leaves options sources opened after)
    (separate : Separate options sources opened) {stored : Disk} {content : FileContent}
    (isStored : (cacheOf options).putAll (freshReadings (visitCached opened options sources))
      opened = .ok stored)
    (written : stored.write (cacheOf options).manifestPath content = .ok after) :
    (cacheOf options).Holds (freshReadings (visitCached opened options sources)) opened after := by
  obtain ⟨usable, isVisit, -⟩ := visitCached_eq opened options sources
  have kept : ∀ reading ∈ freshReadings (visitCached opened options sources),
      '/' ∉ reading.module.name.toList ∧ reading.module.Fresh := by
    intro reading member
    obtain ⟨⟨visit, visited, outcome⟩, isFresh⟩ := mem_freshReadings.mp member
    have plain := separate.plain visit visited
    rw [isVisit] at visited
    have read := (faithful_visitAll sources visit visited).symm.trans outcome
    obtain ⟨origin, -, -, lowered⟩ := fresh_of_read read isFresh
    exact ⟨name_of_read read ▸ plain, (Origin.lower_cases lowered).1⟩
  have distinct : ((freshReadings (visitCached opened options sources)).map
      (·.module.name)).Nodup := by
    rw [isVisit]
    exact (nodup_readings opened options usable separate.distinct).sublist
      (List.filter_sublist.map _)
  exact Cache.holds_of_write (fun reading member => (kept reading member).1) distinct
    (fun reading member => (kept reading member).2) leaves.shallow isStored written

theorem Leaves.ofSource_eq (leaves : Leaves options sources opened after) {source : BuildSource}
    (input : source ∈ sources) (lowering : LoweringOptions) :
    Origin.ofSource after lowering source = Origin.ofSource opened lowering source := by
  unfold Origin.ofSource Origin.sourceText
  rw [leaves.unchanged source input]

/-- The next build visits the same files, and reads all that became modules from the cache. -/
theorem visitCached_again (leaves : Leaves options sources opened after)
    (separate : Separate options sources opened)
    (holds : (cacheOf options).Holds (freshReadings (visitCached opened options sources)) opened
      after) :
    (visitUsing after options (some (cacheOf options)) sources).anew =
        (visitCached opened options sources).anew ∧
      freshReadings (visitUsing after options (some (cacheOf options)) sources) = [] := by
  obtain ⟨usable, isVisit, only, coarse⟩ := visitCached_eq opened options sources
  have unmatched := separate.unmatched
  have plain := separate.plain
  rw [isVisit] at holds unmatched plain ⊢
  exact visitUsing_again rfl holds.changes separate.distinct fun visit member =>
    read_again holds only separate.distinct
      (fun source input => leaves.ofSource_eq input options) member (plain visit member)
      fun none => unmatched (coarse none) visit member

/-- What is needed to build once more after a build that went well: the directories of the cache are
there, its manifest is for the inputs, so modules may be taken from it, and a new one can be
written. -/
theorem visitCached_after (incremental : options.incremental = true) {analysis : Analysis}
    (success : (run sources options).run disk = (.ok analysis, after))
    (leaves : Leaves options sources ((cacheOf options).opened disk) after) :
    after.makeDirectories (cacheOf options).entries = .ok after ∧
      (∃ manifest, (cacheOf options).manifest? after = .ok manifest) ∧
      visitCached after options sources =
        visitUsing after options (some (cacheOf options)) sources ∧
      ∀ content, ∃ last, after.write (cacheOf options).manifestPath content = .ok last := by
  obtain ⟨opened, _, made, -, written, -⟩ := (run_cached_iff incremental).mp success
  rw [Cache.opened_eq made] at leaves
  have has : (store (cacheOf options) (visitCached opened options sources) opened).Has
      (cacheOf options).entries := by
    rw [store_eq, Disk.Has, (Disk.foldl_overwrite _).1]
    exact (Disk.has_of_makeDirectories made).mono fun place =>
      ((Disk.foldl_overwrite _).2 place).mpr
  have found := Cache.manifest?_of_readText rfl (Disk.readText_of_write written)
  have inputs : inputsFingerprint after options sources =
      inputsFingerprint opened options sources :=
    congrArg Fingerprint.ofInputs (List.filterMap_congr fun source input => by
      rw [leaves.ofSource_eq input options])
  refine ⟨(has.write written).makeDirectories_eq, ⟨_, found⟩, ?_,
    fun _ => Disk.write_again written⟩
  unfold visitCached usable?
  dsimp only
  rw [found, inputs, if_pos]
  rw [Bool.or_eq_true]
  exact .inr (beq_self_eq_true _)

/-- After a build that went well and wrote its cache, the next one takes every module from there,
gives the same modules and reports the same failures. -/
theorem run_again (incremental : options.incremental = true) {analysis : Analysis}
    (success : (run sources options).run disk = (.ok analysis, after))
    (leaves : Leaves options sources ((cacheOf options).opened disk) after)
    (separate : Separate options sources ((cacheOf options).opened disk)) :
    Rebuilds options sources analysis after := by
  obtain ⟨isOpen, ⟨manifest, found⟩, isVisit, writable⟩ :=
    visitCached_after incremental success leaves
  obtain ⟨opened, _, made, -, written, rfl⟩ := (run_cached_iff incremental).mp success
  rw [Cache.opened_eq made] at leaves separate
  obtain ⟨stored, isStored⟩ := leaves.stored
  rw [Cache.store_eq_of_putAll isStored] at written
  have holds := holds_of_leaves leaves separate isStored written
  obtain ⟨anew, served⟩ := visitCached_again leaves separate holds
  obtain ⟨last, writtenAgain⟩ := writable (.text (manifestOf
    (inputsFingerprint after options sources) (visitCached after options sources)).toJson.pretty)
  refine ⟨_, last, (run_cached_iff incremental).mpr ⟨after, manifest, isOpen, found, ?_, rfl⟩, ?_⟩
  · rw [isVisit] at writtenAgain ⊢
    rw [store_of_served served]
    exact writtenAgain
  · rw [isVisit]
    obtain ⟨modules, failures⟩ := same_ofProgress_anew options.followImports
      (visitUsing after options (some (cacheOf options)) sources)
    obtain ⟨modulesBefore, failuresBefore⟩ := same_ofProgress_anew options.followImports
      (visitCached opened options sources)
    rw [anew] at modules failures
    exact ⟨modules.trans modulesBefore.symm, failures.trans failuresBefore.symm,
      cached_ofProgress_of_served
        (nodup_readings after options (some (cacheOf options)) separate.distinct) served⟩

open CacheHistory (sampleDisk sampleSources sampleOptions)

theorem leaves_of_isSome
    (stored : ((cacheOf options).putAll (freshReadings (visitCached opened options sources))
      opened).toOption.isSome = true)
    (shallow : ∀ reading ∈ freshReadings (visitCached opened options sources),
      reading.module.Shallow)
    (unchanged : ∀ source ∈ sources, after.readText source.path = opened.readText source.path) :
    Leaves options sources opened after := by
  refine ⟨?_, shallow, unchanged⟩
  cases put : (cacheOf options).putAll (freshReadings (visitCached opened options sources))
      opened with
  | ok written => exact ⟨written, rfl⟩
  | error fault =>
    rw [put] at stored
    cases stored

/-- Two files that import each other are both taken from the cache the second time. -/
theorem run_again_circle :
    ∃ analysis after, (run circleSources sampleOptions).run circleDisk = (.ok analysis, after) ∧
      analysis.modules.names = ["a", "b"] ∧
      Leaves sampleOptions circleSources ((cacheOf sampleOptions).opened circleDisk) after ∧
      Separate sampleOptions circleSources ((cacheOf sampleOptions).opened circleDisk) ∧
      Rebuilds sampleOptions circleSources analysis after := by
  have leaves : Leaves sampleOptions circleSources ((cacheOf sampleOptions).opened circleDisk)
      ((run circleSources sampleOptions).run circleDisk).2 :=
    leaves_of_isSome (by decide +kernel) (by decide +kernel) (by decide +kernel)
  have visits : ∀ visit ∈ (visitCached ((cacheOf sampleOptions).opened circleDisk) sampleOptions
      circleSources).visits,
        '/' ∉ visit.source.module.toList ∧ visit.outcome.toOption.isSome = true := by
    decide +kernel
  have separate : Separate sampleOptions circleSources
      ((cacheOf sampleOptions).opened circleDisk) := by
    refine ⟨by decide, fun visit member => (visits visit member).1, ?_⟩
    intro _ visit member problem origin failed
    have read := (visits visit member).2
    rw [failed] at read
    cases read
  have names : ((run circleSources sampleOptions).run circleDisk).1.toOption.map
      (·.modules.names) = some ["a", "b"] := by decide +kernel
  cases success : (run circleSources sampleOptions).run circleDisk with
  | mk result after =>
    rw [success] at leaves names
    cases result with
    | error problem => cases names
    | ok analysis =>
      exact ⟨analysis, after, rfl, Option.some.inj names, leaves, separate,
        run_again rfl success leaves separate⟩

/-! ### Builds that are not repeated -/

/-- Whether a build goes well and leaves behind what the next one needs, and that one gives something
else or does not take every module from the cache. -/
def Diverges (options : BuildOptions) (sources : List BuildSource) (disk : Disk) : Prop :=
  options.incremental = true ∧ ∃ analysis after,
    (run sources options).run disk = (.ok analysis, after) ∧
      Leaves options sources ((cacheOf options).opened disk) after ∧
      ¬ Rebuilds options sources analysis after

/-- What the next build reads from some sources. -/
def reread (options : BuildOptions) (sources : List BuildSource) (after : Disk) : List Reading :=
  sources.filterMap fun source =>
    (Analysis.read after options (some (cacheOf options)) source).toOption

/-- Where imports are not followed, the next build is known from what it reads from the inputs. -/
theorem of_rebuilds (incremental : options.incremental = true)
    (ends : options.followImports.follows = false) {analysis : Analysis}
    (success : (run sources options).run disk = (.ok analysis, after))
    (leaves : Leaves options sources ((cacheOf options).opened disk) after)
    (rebuilds : Rebuilds options sources analysis after) :
    ModuleSet.ofModules ((reread options sources after).map (·.module)) = analysis.modules ∧
      ((reread options sources after).filter fun reading => !reading.isFresh).length =
        analysis.modules.size := by
  obtain ⟨isOpen, -, isVisit, -⟩ := visitCached_after incremental success leaves
  obtain ⟨again, last, second, modules, -, counted⟩ := rebuilds
  obtain ⟨opened, _, made, -, -, rfl⟩ := (run_cached_iff incremental).mp second
  cases made.symm.trans isOpen
  have visits : readings (visitCached after options sources) = reread options sources after := by
    rw [isVisit, readings, visitUsing, visits_visitAll_of_not_follows ends, visitsOf,
      List.filterMap_map]
    rfl
  rw [← modules, ← counted, modules_ofProgress, cached_ofProgress, served, List.length_map,
    visits]
  exact ⟨rfl, rfl⟩

/-- Two builds in a row: whether the first leaves behind what the second needs, and how a view shows
the modules of both, with their number for the first and how many come from the cache for the
second, where imports are not followed. -/
def observe {β : Type} (view : ModuleSet → Nat → β) (options : BuildOptions)
    (sources : List BuildSource) (disk : Disk) : Bool × Option β × β :=
  let opened := (cacheOf options).opened disk
  let kept := freshReadings (visitCached opened options sources)
  let first := (run sources options).run disk
  let again := reread options sources first.2
  (((cacheOf options).putAll kept opened).toOption.isSome &&
      (kept.all fun reading => decide reading.module.Shallow) &&
      (sources.all fun source => first.2.readText source.path = opened.readText source.path),
    first.1.toOption.map fun analysis => view analysis.modules analysis.modules.size,
    view (ModuleSet.ofModules (again.map (·.module)))
      (again.filter fun reading => !reading.isFresh).length)

theorem diverges_of_observe {β : Type} {view : ModuleSet → Nat → β} {before now : β}
    (incremental : options.incremental = true) (ends : options.followImports.follows = false)
    (observed : observe view options sources disk = (true, some before, now))
    (differs : now ≠ before) : Diverges options sources disk := by
  obtain ⟨left, first, second⟩ : _ ∧ _ ∧ _ := by simpa only [observe, Prod.mk.injEq] using observed
  simp only [Bool.and_eq_true, List.all_eq_true, decide_eq_true_eq] at left
  obtain ⟨⟨stored, shallow⟩, unchanged⟩ := left
  have leaves := leaves_of_isSome stored shallow unchanged
  cases success : (run sources options).run disk with
  | mk result after =>
    rw [success] at leaves first second
    cases result with
    | error problem => cases first
    | ok analysis =>
      refine ⟨incremental, analysis, after, success, leaves, fun rebuilds => differs ?_⟩
      obtain ⟨modules, counted⟩ := of_rebuilds incremental ends success leaves rebuilds
      rw [← second, modules, counted]
      exact Option.some.inj first

/-- The options of a build that does not follow imports. -/
def soloOptions : BuildOptions :=
  { sampleOptions with followImports := .skip }

/-- A file with a syntax error, and an entry for its text. -/
def staleDisk : Disk where
  entries :=
    [(["a.py"], .file (.text "(")), (["cache"], .directory), (["cache", "modules"], .directory),
      (["cache", "modules", "a.json"], .file (.text ((cacheOf soloOptions).entryText
        (.skeleton "a" ⟨"a.py"⟩) (Origin.mk ⟨"a.py"⟩ soloOptions "(").fingerprint)))]
  home := []

/-- The options of a build that does not follow imports and may use any entry. -/
def finerOptions : BuildOptions :=
  { soloOptions with fineGrained := true }

/-- Two empty files, and an entry for one of them that its text does not give. -/
def sharedDisk : Disk where
  entries :=
    [(["a.py"], .file (.text "")), (["b.py"], .file (.text "")), (["cache"], .directory),
      (["cache", "modules"], .directory),
      (["cache", "modules", "a.json"], .file (.text ((cacheOf finerOptions).entryText
        { Module.skeleton "a" ⟨"a.py"⟩ with isPackage := true }
        (Origin.mk ⟨"a.py"⟩ finerOptions "").fingerprint)))]
  home := []

/-- Both files under one name. -/
def sharedSources : List BuildSource :=
  [⟨⟨"b.py"⟩, "a", ⟨""⟩⟩, ⟨⟨"a.py"⟩, "a", ⟨""⟩⟩]

/-- A file under a name that leads out of the directory of the entries. -/
def escapingSources : List BuildSource :=
  [⟨⟨"a.py"⟩, "../manifest", ⟨""⟩⟩]

/-- A file that fails at first may come from the cache the next time; of two files under one name
the entry of one may be replaced by that of the other; and the manifest may take the place of an
entry. -/
theorem diverges_where_not_separate :
    Diverges soloOptions sampleSources staleDisk ∧
      Diverges finerOptions sharedSources sharedDisk ∧
      Diverges soloOptions escapingSources sampleDisk := by
  refine ⟨?_, ?_, ?_⟩
  · have observed : observe (fun modules _ => modules.names) soloOptions sampleSources staleDisk =
        (true, some [], ["a"]) := by decide +kernel
    exact diverges_of_observe rfl rfl observed (by decide)
  · have observed : observe (fun modules _ => modules.values.map (·.isPackage)) finerOptions
        sharedSources sharedDisk = (true, some [true], [false]) := by decide +kernel
    exact diverges_of_observe rfl rfl observed (by decide)
  · have observed : observe (fun _ count => count) soloOptions escapingSources sampleDisk =
        (true, some 1, 0) := by decide +kernel
    exact diverges_of_observe rfl rfl observed (by decide)

end Analysis

end Declarations
