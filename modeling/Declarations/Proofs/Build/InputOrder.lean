/-
This file proves that the order of inputs does not matter where problems are passed over in
silence. Two builds of the same inputs in different orders give the same modules, leave
the same references open, report the same failures and take the same modules from the
cache, or end with the same problem. Which modules come from the cache is said by an
analyzer that notes their names, and does nothing else that the standard one does not.
-/

import Declarations.Proofs.Build.Reordering

namespace Declarations

/-! ### Noting what comes from the cache -/

namespace Work

variable {σ τ α : Type}

/-- Work on one part of a state. -/
def inside (work : Work σ α) : Work (σ × τ) α :=
  fun state =>
    let (result, after) := work.run state.1
    (result, after, state.2)

theorem run_inside (work : Work σ α) (state : σ) (note : τ) :
    (inside work).run (state, note) = ((work.run state).1, (work.run state).2, note) :=
  rfl

end Work

namespace Analysis

/-- Reads sources with the cache, and gives what was recorded. -/
def recordCached (sources : List BuildSource) (options : BuildOptions) : Work Disk Progress := do
  let cache ← Cache.openAt options.cacheDir version options.skipVersionCheck
  let manifest ← Work.look cache.manifest?
  let disk ← get
  let inputs := inputsFingerprint disk options sources
  let progress := visitUsing disk options (usable? options cache manifest inputs) sources
  modify (store cache progress)
  cache.writeManifest (manifestOf inputs progress)
  return progress

/-- Reads sources, and gives what was recorded. -/
def record (sources : List BuildSource) (options : BuildOptions) : Work Disk Progress :=
  if options.incremental then recordCached sources options
  else do return visitUsing (← get) options none sources

/-- A run gives what its record says. -/
theorem run_eq_record (sources : List BuildSource) (options : BuildOptions) :
    run sources options = do
      let progress ← record sources options
      return ofProgress options.followImports progress := by
  unfold run record
  split
  · unfold runCached recordCached
    simp only [bind_assoc, pure_bind]
  · unfold runFresh
    simp only [bind_assoc, pure_bind]

end Analysis

/-- The analyzer that notes the names of the modules that it takes from the cache. -/
def Analyzer.noting : Analyzer (Disk × List String) where
  disk := fun state => state.1
  analyze := fun sources options => do
    let progress ← Work.inside (Analysis.record sources options)
    modify fun state => (state.1, state.2 ++ Analysis.served progress)
    return Analysis.ofProgress options.followImports progress
  dropCache := fun directory => Work.inside (Analyzer.standard.dropCache directory)

namespace Analyzer

variable {sources : List BuildSource} {options : BuildOptions} {disk after : Disk}

theorem run_noting_ok {progress : Analysis.Progress} (notes : List String)
    (recorded : (Analysis.record sources options).run disk = (.ok progress, after)) :
    (noting.analyze sources options).run (disk, notes) =
      (.ok (Analysis.ofProgress options.followImports progress), after,
        notes ++ Analysis.served progress) := by
  have inside := Work.run_inside (Analysis.record sources options) disk notes
  rw [recorded] at inside
  unfold noting
  dsimp only
  rw [Work.run_bind_ok inside]
  rfl

theorem run_noting_error {problem : Problem} (notes : List String)
    (recorded : (Analysis.record sources options).run disk = (.error problem, after)) :
    (noting.analyze sources options).run (disk, notes) = (.error problem, after, notes) := by
  have inside := Work.run_inside (Analysis.record sources options) disk notes
  rw [recorded] at inside
  exact Work.run_bind_error inside

end Analyzer

/-! ### What a view shows -/

namespace Work

variable {σ τ α β : Type} {view : τ → σ}

/-- Whether work does, on what a view shows of its state, what other work does. -/
def Shows (view : τ → σ) (work : Work τ α) (other : Work σ α) : Prop :=
  ∀ state, Prod.map id view (work.run state) = other.run (view state)

theorem shows_inside (work : Work σ α) :
    Shows (fun state : σ × τ => state.1) (inside work) work :=
  fun _ => rfl

theorem Shows.bind {work : Work τ α} {other : Work σ α} {next : α → Work τ β}
    {otherNext : α → Work σ β} (first : Shows view work other)
    (rest : ∀ value, Shows view (next value) (otherNext value)) :
    Shows view (work >>= next) (other >>= otherNext) := by
  intro state
  have shown := first state
  cases outcome : work.run state with
  | mk result after =>
    rw [outcome] at shown
    cases result with
    | error problem =>
      rw [run_bind_error outcome, run_bind_error shown.symm]
      rfl
    | ok value =>
      rw [run_bind_ok outcome, run_bind_ok shown.symm]
      exact rest value after

end Work

/-- Whether an analyzer does, on what a view shows of its state, what another one does. -/
structure Analyzer.Refines {σ τ : Type} (finer : Analyzer τ) (coarser : Analyzer σ)
    (view : τ → σ) : Prop where
  disk : ∀ state, finer.disk state = coarser.disk (view state)
  analyze : ∀ sources options,
    Work.Shows view (finer.analyze sources options) (coarser.analyze sources options)
  dropCache : ∀ directory, Work.Shows view (finer.dropCache directory) (coarser.dropCache directory)

/-- Noting changes nothing. -/
theorem Analyzer.refines_noting : noting.Refines standard fun state => state.1 where
  disk _ := rfl
  analyze sources options := by
    show Work.Shows _ _ (Analysis.run sources options)
    rw [Analysis.run_eq_record]
    exact (Work.shows_inside _).bind fun _ _ => rfl
  dropCache _ := Work.shows_inside _

namespace Build

section

variable {σ τ : Type} {finer : Analyzer τ} {coarser : Analyzer σ} {view : τ → σ}

theorem shows_reading (refines : finer.Refines coarser view) (options : BuildOptions)
    (sources : List BuildSource) :
    Work.Shows view (reading finer options sources) (reading coarser options sources) := by
  intro state
  unfold reading
  split
  · rfl
  · have first := refines.analyze sources options state
    rw [run_analyze, run_analyze, ← first]
    dsimp only [Prod.map_fst, Prod.map_snd, id_eq]
    split
    · exact (refines.dropCache options.cacheDir).bind (fun _ => refines.analyze sources options) _
    · rfl

/-- A build does on the view what it does with the coarser analyzer. -/
theorem shows_run (refines : finer.Refines coarser view) (options : BuildOptions)
    (inputs : List Path) :
    Work.Shows view (run finer options inputs) (run coarser options inputs) := by
  intro state
  rw [run_eq, run_eq, ← refines.disk]
  split
  · rfl
  · cases options.validate with
    | error problem => rfl
    | ok =>
      dsimp only
      cases BuildSource.collect (finer.disk state) options.exclude inputs with
      | error problem => rfl
      | ok found =>
        dsimp only
        rw [← shows_reading refines options found.1 state]
        rfl

end

end Build

/-! ### Two runs -/

/-- Whether two outcomes are the same problem, or values that are related. -/
inductive SameOutcome {α : Type} (related : α → α → Prop) :
    Except Problem α → Except Problem α → Prop
  | failed (problem : Problem) : SameOutcome related (.error problem) (.error problem)
  | done {first second : α} : related first second → SameOutcome related (.ok first) (.ok second)

/-- Whether two results of a build are the same, except that failures may come in another order. -/
structure BuildResult.Agrees (first second : BuildResult) : Prop where
  modules : first.modules = second.modules
  unresolved : first.unresolved = second.unresolved
  failures : first.failures.Perm second.failures
  cached : first.cached = second.cached

namespace Analysis

open BuildSource (Reordered)

variable {options : BuildOptions} {sources more : List BuildSource}

/-- How two runs may end that read the same sources in another order: for the same reason on the
same disk, because the manifest cannot be written, or after reading from the same disk and
cache. -/
inductive EndTogether (options : BuildOptions) (sources more : List BuildSource) :
    Except Problem Progress × Disk → Except Problem Progress × Disk → Prop
  | failed (problem : Problem) (after : Disk) :
      EndTogether options sources more (.error problem, after) (.error problem, after)
  | unwritten (fault : DiskFault) (after other : Disk) :
      EndTogether options sources more (.error (.disk none fault), after)
        (.error (.disk none fault), other)
  | read (disk : Disk) (usable : Option Cache) (after other : Disk) :
      EndTogether options sources more (.ok (visitUsing disk options usable sources), after)
        (.ok (visitUsing disk options usable more), other)

theorem endTogether_recordCached (follows : options.followImports.follows = true)
    (reordered : Reordered sources more) (disk : Disk) :
    EndTogether options sources more ((recordCached sources options).run disk)
      ((recordCached more options).run disk) := by
  have openAt : Cache.openAt options.cacheDir version options.skipVersionCheck =
      (Work.onDisk fun disk => disk.makeDirectories (cacheOf options).entries) >>= fun _ =>
        pure (cacheOf options) := rfl
  unfold recordCached
  rw [openAt, bind_assoc, bind_assoc]
  simp only [pure_bind]
  cases made : disk.makeDirectories (cacheOf options).entries with
  | error fault =>
    have opening : (Work.onDisk fun disk =>
        disk.makeDirectories (cacheOf options).entries).run disk =
          (.error (.disk none fault), disk) := Work.run_onDisk_error made
    rw [Work.run_bind_error opening, Work.run_bind_error opening]
    exact .failed _ disk
  | ok opened =>
    have opening : (Work.onDisk fun disk =>
        disk.makeDirectories (cacheOf options).entries).run disk = (.ok (), opened) :=
      Work.run_onDisk_ok made
    rw [Work.run_bind_ok opening, Work.run_bind_ok opening]
    cases found : (cacheOf options).manifest? opened with
    | error problem =>
      rw [Work.run_bind_error (Work.run_look_error found),
        Work.run_bind_error (Work.run_look_error found)]
      exact .failed _ opened
    | ok manifest =>
      rw [Work.run_bind_ok (Work.run_look_ok found), Work.run_bind_ok (Work.run_look_ok found),
        Work.run_bind_ok Work.run_get, Work.run_bind_ok Work.run_get,
        inputsFingerprint_perm reordered.permuted]
      generalize usable? options (cacheOf options) manifest
        (inputsFingerprint opened options more) = usable
      rw [Work.run_bind_ok (Work.run_modify _), Work.run_bind_ok (Work.run_modify _)]
      unfold Cache.writeManifest
      have alike : (store (cacheOf options) (visitUsing opened options usable sources)
          opened).Alike (store (cacheOf options) (visitUsing opened options usable more) opened) :=
        alike_store follows reordered (cacheOf options)
      rcases alike.write_cases (cacheOf options).manifestPath _ _ with
        ⟨fault, refused, alsoRefused⟩ | ⟨written, other, success, alsoSuccess⟩
      · rw [Work.run_bind_error (Work.run_onDisk_error refused),
          Work.run_bind_error (Work.run_onDisk_error alsoRefused)]
        exact .unwritten fault _ _
      · rw [Work.run_bind_ok (Work.run_onDisk_ok success),
          Work.run_bind_ok (Work.run_onDisk_ok alsoSuccess)]
        exact .read opened usable written other

theorem endTogether_record (follows : options.followImports.follows = true)
    (reordered : Reordered sources more) (disk : Disk) :
    EndTogether options sources more ((record sources options).run disk)
      ((record more options).run disk) := by
  unfold record
  split
  · exact endTogether_recordCached follows reordered disk
  · exact .read disk none disk disk

end Analysis

namespace Build

open BuildSource (Reordered)

variable {options : BuildOptions} {sources more : List BuildSource}

/-- Whether two ways of reading gave the same and noted the same names, one for each module that is
counted as taken from the cache. -/
structure ReadAlike (first second : Except Problem Analysis × Disk × List String) : Prop where
  outcomes : SameOutcome Analysis.Agrees first.1 second.1
  notes : first.2.2.Perm second.2.2
  counted : ∀ analysis, first.1 = .ok analysis → analysis.cached = first.2.2.length

theorem ReadAlike.failed (problem : Problem) (after other : Disk) :
    ReadAlike (.error problem, after, []) (.error problem, other, []) :=
  ⟨.failed problem, .refl _, nofun⟩

/-- Sources that are read in another order end with the same problem on the same disk, or are read
alike with a cache that is not corrupt. -/
theorem analyze_cases (follows : options.followImports.follows = true)
    (reordered : Reordered sources more) (disk : Disk) :
    let first := (Analyzer.noting.analyze sources options).run (disk, [])
    let second := (Analyzer.noting.analyze more options).run (disk, [])
    (∃ problem after, first = (.error problem, after, []) ∧ second = (.error problem, after, [])) ∨
      (isCorrupt first.1 = false ∧ isCorrupt second.1 = false ∧ ReadAlike first second) := by
  intro first second
  have together := Analysis.endTogether_record follows reordered disk
  cases recorded : (Analysis.record sources options).run disk with
  | mk outcome after =>
    cases alsoRecorded : (Analysis.record more options).run disk with
    | mk otherOutcome other =>
      rw [recorded, alsoRecorded] at together
      cases together with
      | failed problem =>
        exact .inl ⟨problem, after, Analyzer.run_noting_error [] recorded,
          Analyzer.run_noting_error [] alsoRecorded⟩
      | unwritten fault =>
        have isFirst : first = _ := Analyzer.run_noting_error [] recorded
        have isSecond : second = _ := Analyzer.run_noting_error [] alsoRecorded
        rw [isFirst, isSecond]
        exact .inr ⟨rfl, rfl, .failed _ after other⟩
      | read opened usable =>
        have isFirst : first = _ := Analyzer.run_noting_ok [] recorded
        have isSecond : second = _ := Analyzer.run_noting_ok [] alsoRecorded
        rw [isFirst, isSecond]
        refine .inr ⟨rfl, rfl, .done (Analysis.ofProgress_perm follows reordered),
          Analysis.served_perm follows reordered, ?_⟩
        rintro _ ⟨⟩
        exact Analysis.cached_ofProgress _

theorem readAlike_analyze (follows : options.followImports.follows = true)
    (reordered : Reordered sources more) (disk : Disk) :
    ReadAlike ((Analyzer.noting.analyze sources options).run (disk, []))
      ((Analyzer.noting.analyze more options).run (disk, [])) := by
  rcases analyze_cases follows reordered disk with ⟨problem, after, first, second⟩ | ⟨-, -, alike⟩
  · rw [first, second]
    exact .failed problem after after
  · exact alike

/-- The same holds where the cache turns out to be corrupt: it is dropped from the same disk. -/
theorem readAlike_reading (follows : options.followImports.follows = true)
    (reordered : Reordered sources more) (disk : Disk) :
    ReadAlike ((reading .noting options sources).run (disk, []))
      ((reading .noting options more).run (disk, [])) := by
  unfold reading
  rw [reordered.permuted.isEmpty_eq]
  split
  · refine ⟨.done ⟨rfl, .refl _, rfl⟩, .refl _, ?_⟩
    rintro _ ⟨⟩
    rfl
  · rw [run_analyze, run_analyze]
    dsimp only
    rcases analyze_cases follows reordered disk with
      ⟨problem, after, first, second⟩ | ⟨sound, alsoSound, alike⟩
    · rw [first, second]
      split
      · cases dropped : (Analyzer.standard.dropCache options.cacheDir).run after with
        | mk outcome bare =>
          have inside : (Analyzer.noting.dropCache options.cacheDir).run (after, []) =
              (outcome, bare, []) := by
            have inside : (Analyzer.noting.dropCache options.cacheDir).run (after, []) = _ :=
              Work.run_inside (Analyzer.standard.dropCache options.cacheDir) after []
            rw [inside, dropped]
          cases outcome with
          | error problem =>
            rw [Work.run_bind_error inside, Work.run_bind_error inside]
            exact .failed problem bare bare
          | ok =>
            rw [Work.run_bind_ok inside, Work.run_bind_ok inside]
            exact readAlike_analyze follows reordered bare
      · exact .failed problem after after
    · rw [sound, alsoSound, if_neg Bool.false_ne_true, if_neg Bool.false_ne_true]
      exact alike

/-- In silence nothing that was read ends a build. -/
theorem conclude_silent (missing : List Failure) (analysis : Analysis) :
    conclude .silent missing analysis =
      .ok ⟨(analysis.modules.link NameMap.empty).1, missing ++ analysis.failures,
        (analysis.modules.link NameMap.empty).2.unresolved, analysis.cached⟩ :=
  rfl

theorem sameOutcome_conclude {missing others : List Failure} (permuted : missing.Perm others)
    {first second : Except Problem Analysis} (same : SameOutcome Analysis.Agrees first second) :
    SameOutcome BuildResult.Agrees (first.bind (conclude .silent missing))
      (second.bind (conclude .silent others)) := by
  cases same with
  | failed problem => exact .failed problem
  | done agrees =>
    show SameOutcome BuildResult.Agrees (conclude .silent missing _) (conclude .silent others _)
    rw [conclude_silent, conclude_silent, agrees.modules]
    exact .done ⟨rfl, rfl, permuted.append agrees.failures, agrees.cached⟩

variable {inputs others : List Path}

/-- Builds of the same inputs in different orders, with the names that are noted. -/
theorem noting_perm (silent : options.followImports = .silent) (permuted : inputs.Perm others)
    (disk : Disk) (unambiguous : BuildSource.IsUnambiguous disk options.exclude inputs) :
    let first := (run .noting options inputs).run (disk, [])
    let second := (run .noting options others).run (disk, [])
    SameOutcome BuildResult.Agrees first.1 second.1 ∧ first.2.2.Perm second.2.2 ∧
      ∀ result, first.1 = .ok result → result.cached = first.2.2.length := by
  have follows : options.followImports.follows = true := by
    rw [silent]
    rfl
  have onDisk : Analyzer.noting.disk (disk, []) = disk := rfl
  dsimp only
  rw [run_eq, run_eq, permuted.isEmpty_eq, onDisk]
  split
  · exact ⟨.failed _, .refl _, nofun⟩
  · cases options.validate with
    | error problem => exact ⟨.failed problem, .refl _, nofun⟩
    | ok =>
      dsimp only
      rcases BuildSource.collect_perm permuted unambiguous with
        ⟨problem, refused, alsoRefused⟩ | ⟨sources, more, reordered, collected, alsoCollected⟩
      · rw [refused, alsoRefused]
        exact ⟨.failed problem, .refl _, nofun⟩
      · rw [collected, alsoCollected]
        dsimp only
        obtain ⟨outcomes, notes, counted⟩ := readAlike_reading follows reordered disk
        rw [silent]
        refine ⟨sameOutcome_conclude (BuildSource.missingFrom_perm permuted) outcomes, notes,
          fun result success => ?_⟩
        cases read : ((reading .noting options sources).run (disk, [])).1 with
        | error problem =>
          rw [read] at success
          cases success
        | ok analysis =>
          rw [read] at success
          cases success
          exact counted analysis read

theorem exists_patterns_of_validate (valid : options.validate = .ok ()) :
    ∃ patterns, options.exclude.mapM GlobPattern.parse = .ok patterns := by
  unfold BuildOptions.validate at valid
  cases parsed : options.exclude.mapM GlobPattern.parse with
  | ok patterns => exact ⟨patterns, rfl⟩
  | error error =>
    rw [parsed] at valid
    split at valid
    · cases valid
    · split at valid <;> cases valid

/-- Without a cache sources are read from the disk as it is, which stays so. -/
theorem reading_plain (plain : options.incremental = false) (sources : List BuildSource)
    (disk : Disk) :
    (reading .standard options sources).run disk =
      (.ok (Analysis.ofProgress options.followImports
        (Analysis.visitUsing disk options none sources)), disk) := by
  unfold reading
  split
  next empty =>
    obtain rfl := List.isEmpty_iff.mp empty
    rw [Analysis.visitUsing_nil]
    rfl
  next =>
    have uncached : (Analyzer.standard.analyze sources options).run disk =
        (Analysis.runFresh sources options).run disk := by
      show (Analysis.run sources options).run disk = _
      rw [Analysis.run, plain, if_neg Bool.false_ne_true]
    rw [run_analyze, uncached]
    rfl

/-- Without a cache nothing but its options and the lack of inputs keeps a silent build from
finishing. -/
theorem run_silent (silent : options.followImports = .silent) (filled : inputs ≠ [])
    (valid : options.validate = .ok ()) (plain : options.incremental = false) (disk : Disk) :
    ∃ result, ((run .standard options inputs).run disk).1 = .ok result := by
  obtain ⟨patterns, parsed⟩ := exists_patterns_of_validate valid
  obtain ⟨sources, missing, collected⟩ : ∃ sources missing,
      BuildSource.collect disk options.exclude inputs = .ok (sources, missing) :=
    ⟨_, _, BuildSource.collect_eq_ok_iff.mpr ⟨patterns, parsed, rfl, rfl⟩⟩
  rw [run_of_reading filled valid collected (reading_plain plain sources disk), silent]
  exact ⟨_, conclude_silent missing _⟩

/-- The order of inputs does not matter where problems are passed over in silence, no two different
files have one module name and all are imported from one base. Both builds end with the same
problem, which does not happen to valid options without a cache, or with the same modules and
open references and the same failures, perhaps in another order. They take the same modules
from the cache, as noting the names of these shows. -/
theorem run_perm (options : BuildOptions) (disk : Disk) (inputs others : List Path)
    (silent : options.followImports = .silent) (permuted : inputs.Perm others)
    (unambiguous : BuildSource.IsUnambiguous disk options.exclude inputs) :
    let first := (run .standard options inputs).run disk
    let second := (run .standard options others).run disk
    SameOutcome BuildResult.Agrees first.1 second.1 ∧
      (inputs ≠ [] → options.validate = .ok () → options.incremental = false →
        ∃ result, first.1 = .ok result) ∧
      ∃ served alsoServed,
        (run .noting options inputs).run (disk, []) = (first.1, first.2, served) ∧
        (run .noting options others).run (disk, []) = (second.1, second.2, alsoServed) ∧
        served.Perm alsoServed ∧
        ∀ result, first.1 = .ok result → result.cached = served.length := by
  intro first second
  obtain ⟨outcomes, notes, counted⟩ := noting_perm silent permuted disk unambiguous
  have shown : Prod.map id (·.1) ((run .noting options inputs).run (disk, [])) = first :=
    shows_run Analyzer.refines_noting options inputs (disk, [])
  have alsoShown : Prod.map id (·.1) ((run .noting options others).run (disk, [])) = second :=
    shows_run Analyzer.refines_noting options others (disk, [])
  have finishes (filled : inputs ≠ []) (valid : options.validate = .ok ())
      (plain : options.incremental = false) : ∃ result, first.1 = .ok result :=
    run_silent silent filled valid plain disk
  rw [← shown] at finishes ⊢
  rw [← alsoShown]
  exact ⟨outcomes, finishes, _, _, rfl, rfl, notes, counted⟩

/-- The options of a build that uses the cache module by module. -/
def twinOptions : BuildOptions :=
  { BuildOptions.default with
    incremental := true, fineGrained := true, cacheDir := ⟨"cache"⟩, exclude := [] }

/-- An empty source file. -/
def twinOrigin : Origin :=
  ⟨⟨"/a.py"⟩, twinOptions, ""⟩

/-- A disk with two empty source files, and a cache with an entry for one of them. -/
def twinDisk : Disk where
  entries :=
    [(["a.py"], .file (.text "")), (["b.py"], .file (.text "")), (["cache"], .directory),
      (["cache", "modules"], .directory),
      (["cache", "modules", "a.json"], .file (.text ((Analysis.cacheOf twinOptions).entryText
        (.ofOutline twinOptions "a" twinOrigin.path (.ofBody [])) twinOrigin.fingerprint)))]
  home := []

/-- The files, and one that is missing. -/
def twinInputs : List Path :=
  [⟨"a.py"⟩, ⟨"gone.py"⟩, ⟨"b.py"⟩]

/-- In both orders the first file comes from the cache. -/
theorem run_perm_twins :
    BuildSource.IsUnambiguous twinDisk [] twinInputs ∧
      SameOutcome BuildResult.Agrees ((run .standard twinOptions twinInputs).run twinDisk).1
        ((run .standard twinOptions twinInputs.reverse).run twinDisk).1 ∧
      ((run .noting twinOptions twinInputs).run (twinDisk, [])).2.2 = ["a"] ∧
      ((run .noting twinOptions twinInputs.reverse).run (twinDisk, [])).2.2 = ["a"] := by
  have files : (BuildSource.expand twinDisk [] twinInputs).1 = [⟨"a.py"⟩, ⟨"b.py"⟩] := by
    decide +kernel
  have source : BuildSource.ofPath twinDisk ⟨"a.py"⟩ = ⟨⟨"/a.py"⟩, "a", ⟨"/"⟩⟩ := by
    decide +kernel
  have other : BuildSource.ofPath twinDisk ⟨"b.py"⟩ = ⟨⟨"/b.py"⟩, "b", ⟨"/"⟩⟩ := by
    decide +kernel
  have unambiguous : BuildSource.IsUnambiguous twinDisk [] twinInputs := by
    intro patterns parsed
    obtain rfl : [] = patterns := Except.ok.inj parsed
    rw [files, List.map_cons, List.map_singleton, source, other]
    decide
  have permuted : twinInputs.Perm twinInputs.reverse := by decide
  obtain ⟨outcomes, -, served, alsoServed, noted, alsoNoted, same, -⟩ :=
    run_perm twinOptions twinDisk twinInputs twinInputs.reverse rfl permuted unambiguous
  have names : ((run .noting twinOptions twinInputs).run (twinDisk, [])).2.2 = ["a"] := by
    decide +kernel
  have isServed : served = ["a"] := by
    rw [noted] at names
    exact names
  rw [isServed] at same
  refine ⟨unambiguous, outcomes, names, ?_⟩
  rw [alsoNoted]
  exact (List.singleton_perm.mp same).symm

end Build

end Declarations
