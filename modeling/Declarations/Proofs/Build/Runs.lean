/-
This file says how a build goes on, whatever reads its sources: what it gives follows from
what reading gives, and the analyzer is asked again only after it reported a corrupt cache
and the cache was dropped. The latter is said by logging what an analyzer is asked for,
which changes nothing else. So an analyzer that counts what it is asked for counts two runs
and one dropped cache at most.
-/

import Declarations.Build.Trial
import Declarations.Proofs.Build.Work

namespace Declarations

/-! ### Logs -/

/-- What an analyzer was asked for. -/
inductive Call where
  | analyze (isCorrupt : Bool)
  | dropCache
deriving DecidableEq, Repr

/-- Whether a result is that the cache is corrupt. -/
def isCorrupt {α : Type} : Except Problem α → Bool
  | .error (.cacheCorrupt _) => true
  | _ => false

namespace Work

variable {σ α β : Type}

/-- Work that is logged when it is done. -/
def logged (entry : Except Problem α → Call) (work : Work σ α) : Work (σ × List Call) α :=
  fun state =>
    let (result, after) := work.run state.1
    (result, after, state.2 ++ [entry result])

theorem run_logged (entry : Except Problem α → Call) (work : Work σ α) (state : σ)
    (log : List Call) :
    (logged entry work).run (state, log) =
      ((work.run state).1, (work.run state).2, log ++ [entry (work.run state).1]) :=
  rfl

end Work

/-- An analyzer that logs what it is asked for. -/
def Analyzer.logged {σ : Type} (analyzer : Analyzer σ) : Analyzer (σ × List Call) where
  disk := fun state => analyzer.disk state.1
  analyze := fun sources options =>
    Work.logged (fun result => .analyze (isCorrupt result)) (analyzer.analyze sources options)
  dropCache := fun directory => Work.logged (fun _ => .dropCache) (analyzer.dropCache directory)

/-- The logs of a build: the cache is dropped only where it was reported as corrupt, and then
sources are read once more. -/
inductive IsCautious : List Call → Prop
  | unread : IsCautious []
  | once : IsCautious [.analyze false]
  | kept : IsCautious [.analyze true, .dropCache]
  | twice (isCorrupt : Bool) : IsCautious [.analyze true, .dropCache, .analyze isCorrupt]

theorem IsCautious.drops_le {log : List Call} (cautious : IsCautious log) :
    log.count .dropCache ≤ 1 := by
  cases cautious <;> decide +revert

theorem IsCautious.runs_le {log : List Call} (cautious : IsCautious log) :
    log.countP (· ≠ .dropCache) ≤ log.count .dropCache + 1 := by
  cases cautious <;> decide +revert

/-! ### Runs -/

namespace Build

variable {σ : Type}

/-- What a build gives once its sources were read. -/
def conclude (policy : FollowImports) (missing : List Failure) (analysis : Analysis) :
    Except Problem BuildResult :=
  match firstProblem? policy (missing ++ analysis.failures) with
  | some problem => .error problem
  | none =>
    let linked := analysis.modules.link NameMap.empty
    .ok ⟨linked.1, missing ++ analysis.failures, linked.2.unresolved, analysis.cached⟩

/-- How the sources of a build are read. -/
def reading (analyzer : Analyzer σ) (options : BuildOptions) (sources : List BuildSource) :
    Work σ Analysis :=
  if sources.isEmpty then pure .empty else analyze analyzer options sources

theorem run_conclude (policy : FollowImports) (missing : List Failure) (analysis : Analysis)
    (state : σ) :
    ExceptT.run (
        match firstProblem? policy (missing ++ analysis.failures) with
        | some problem => throw problem
        | none =>
          let (modules, report) := analysis.modules.link NameMap.empty
          return ⟨modules, missing ++ analysis.failures, report.unresolved, analysis.cached⟩ :
        Work σ BuildResult) state =
      (conclude policy missing analysis, state) := by
  unfold conclude
  cases firstProblem? policy (missing ++ analysis.failures) <;> rfl

/-- A build collects, reads and concludes. -/
theorem run_eq (analyzer : Analyzer σ) (options : BuildOptions) (inputs : List Path) (state : σ) :
    (run analyzer options inputs).run state =
      if inputs.isEmpty then (.error .emptyInput, state)
      else
        match options.validate with
        | .error problem => (.error problem, state)
        | .ok _ =>
          match BuildSource.collect (analyzer.disk state) options.exclude inputs with
          | .error problem => (.error problem, state)
          | .ok (sources, missing) =>
            let read := (reading analyzer options sources).run state
            (read.1.bind (conclude options.followImports missing), read.2) := by
  unfold run
  by_cases none : inputs.isEmpty = true
  · rw [if_pos none, if_pos none]
    rfl
  · rw [if_neg none, if_neg none]
    show ExceptT.run (Work.look (fun _ => options.validate) >>= fun _ => _) state = _
    cases options.validate with
    | error problem => exact Work.run_bind_error (Work.run_look_error rfl)
    | ok =>
      have looked : (Work.look fun _ : σ => (.ok () : Except Problem Unit)).run state =
          (.ok (), state) := Work.run_look_ok rfl
      rw [Work.run_bind_ok looked]
      cases collected : BuildSource.collect (analyzer.disk state) options.exclude inputs with
      | error problem => exact Work.run_bind_error (Work.run_look_error collected)
      | ok found =>
        have looked : (Work.look fun state : σ =>
            BuildSource.collect (analyzer.disk state) options.exclude inputs).run state =
              (.ok found, state) := Work.run_look_ok collected
        rw [Work.run_bind_ok looked]
        obtain ⟨sources, missing⟩ := found
        unfold reading
        dsimp only
        split
        · exact run_conclude options.followImports missing .empty state
        · rw [Work.run_bind]
          cases (analyze analyzer options sources).run state with
          | mk result after =>
            cases result with
            | error problem => rfl
            | ok analysis => exact run_conclude options.followImports missing analysis after

/-- Sources are read once more where the cache is corrupt. -/
theorem run_analyze (analyzer : Analyzer σ) (options : BuildOptions) (sources : List BuildSource)
    (state : σ) :
    (analyze analyzer options sources).run state =
      let first := (analyzer.analyze sources options).run state
      if isCorrupt first.1 then
        (analyzer.dropCache options.cacheDir >>= fun _ =>
          analyzer.analyze sources options).run first.2
      else first := by
  unfold analyze
  rw [ExceptT.run_tryCatch]
  cases read : ExceptT.run (analyzer.analyze sources options) state with
  | mk result after =>
    have bound {β : Type} (next : Except Problem Analysis → StateM σ β) :
        (ExceptT.run (analyzer.analyze sources options) >>= next) state = next result after := by
      show next (ExceptT.run (analyzer.analyze sources options) state).1
        (ExceptT.run (analyzer.analyze sources options) state).2 = _
      rw [read]
    rw [bound]
    cases result with
    | ok analysis => rfl
    | error problem => cases problem <;> rfl

/-- Logging changes nothing else, and the logs are cautious. -/
theorem reading_logged (analyzer : Analyzer σ) (options : BuildOptions)
    (sources : List BuildSource) (state : σ) :
    ∃ log, IsCautious log ∧
      (reading analyzer.logged options sources).run (state, []) =
        (((reading analyzer options sources).run state).1,
          ((reading analyzer options sources).run state).2, log) := by
  unfold reading
  split
  · exact ⟨[], .unread, rfl⟩
  · rw [run_analyze, run_analyze]
    cases read : (analyzer.analyze sources options).run state with
    | mk result after =>
      have logged : (analyzer.logged.analyze sources options).run (state, []) =
          (result, after, [.analyze (isCorrupt result)]) := by
        unfold Analyzer.logged
        rw [Work.run_logged, read]
        rfl
      rw [logged]
      dsimp only
      cases corrupt : isCorrupt result with
      | false => exact ⟨_, .once, rfl⟩
      | true =>
        rw [if_pos rfl, if_pos rfl]
        cases drop : (analyzer.dropCache options.cacheDir).run after with
        | mk dropped state =>
          have loggedDrop : (analyzer.logged.dropCache options.cacheDir).run
              (after, [.analyze true]) = (dropped, state, [.analyze true, .dropCache]) := by
            unfold Analyzer.logged
            rw [Work.run_logged, drop]
            rfl
          cases dropped with
          | error problem =>
            rw [Work.run_bind_error loggedDrop, Work.run_bind_error drop]
            exact ⟨_, .kept, rfl⟩
          | ok =>
            rw [Work.run_bind_ok loggedDrop, Work.run_bind_ok drop]
            exact ⟨_, .twice _, rfl⟩

/-- An analyzer is asked twice at most, and the cache dropped once at most and only where it was
reported as corrupt. -/
theorem run_logged (analyzer : Analyzer σ) (options : BuildOptions) (inputs : List Path)
    (state : σ) :
    ∃ log, IsCautious log ∧
      (run analyzer.logged options inputs).run (state, []) =
        (((run analyzer options inputs).run state).1,
          ((run analyzer options inputs).run state).2, log) := by
  rw [run_eq, run_eq]
  split
  · exact ⟨[], .unread, rfl⟩
  · cases options.validate with
    | error problem => exact ⟨[], .unread, rfl⟩
    | ok =>
      have sameDisk : analyzer.logged.disk (state, []) = analyzer.disk state := rfl
      rw [sameDisk]
      dsimp only
      cases BuildSource.collect (analyzer.disk state) options.exclude inputs with
      | error problem => exact ⟨[], .unread, rfl⟩
      | ok found =>
        obtain ⟨sources, missing⟩ := found
        obtain ⟨log, cautious, same⟩ := reading_logged analyzer options sources state
        dsimp only
        rw [same]
        exact ⟨log, cautious, rfl⟩

/-- What asking an analyzer and dropping its cache keep is kept by a build. -/
theorem run_keeps {analyzer : Analyzer σ} {options : BuildOptions} (kept : σ → Prop)
    (asked : ∀ sources state, kept state → kept ((analyzer.analyze sources options).run state).2)
    (dropped : ∀ state, kept state →
      kept ((analyzer.dropCache options.cacheDir).run state).2)
    (inputs : List Path) {state : σ} (here : kept state) :
    kept ((run analyzer options inputs).run state).2 := by
  have read (sources : List BuildSource) :
      kept ((reading analyzer options sources).run state).2 := by
    unfold reading
    split
    · exact here
    · have first := asked sources state here
      rw [run_analyze]
      dsimp only
      split
      · have second := dropped _ first
        rw [Work.run_bind]
        cases drop : (analyzer.dropCache options.cacheDir).run
            ((analyzer.analyze sources options).run state).2 with
        | mk result after =>
          rw [drop] at second
          cases result with
          | error problem => exact second
          | ok => exact asked sources after second
      · exact first
  rw [run_eq]
  split
  · exact here
  · split
    · exact here
    · split
      · exact here
      · exact read _

end Build

/-! ### Trials -/

namespace Trial

/-- Whether a trial has the counts of an earlier one and what a log adds to them. -/
structure Counts (start : Trial) (state : Trial × List Call) : Prop where
  runs : state.1.runs = start.runs + state.2.countP (· ≠ .dropCache)
  drops : state.1.drops = start.drops + state.2.count .dropCache

variable {start trial after : Trial} {log : List Call}

theorem Counts.analyze (counts : start.Counts (trial, log)) (runs : after.runs = trial.runs + 1)
    (drops : after.drops = trial.drops) (isCorrupt : Bool) :
    start.Counts (after, log ++ [.analyze isCorrupt]) := by
  refine ⟨?_, ?_⟩
  · rw [runs, counts.runs, List.countP_append, Nat.add_assoc]
    rfl
  · rw [drops, counts.drops, List.count_append]
    rfl

theorem Counts.dropCache (counts : start.Counts (trial, log)) (runs : after.runs = trial.runs)
    (drops : after.drops = trial.drops + 1) : start.Counts (after, log ++ [.dropCache]) := by
  refine ⟨?_, ?_⟩
  · rw [runs, counts.runs, List.countP_append]
    rfl
  · rw [drops, counts.drops, List.count_append, Nat.add_assoc]
    rfl

theorem counts_analyze (sources : List BuildSource) (options : BuildOptions) (trial : Trial) :
    ((analyzer.analyze sources options).run trial).2.runs = trial.runs + 1 ∧
      ((analyzer.analyze sources options).run trial).2.drops = trial.drops := by
  obtain ⟨disk, corruptRuns, runs, drops⟩ := trial
  cases corruptRuns <;> exact ⟨rfl, rfl⟩

theorem counts_dropCache (directory : Path) (trial : Trial) :
    ((analyzer.dropCache directory).run trial).2.runs = trial.runs ∧
      ((analyzer.dropCache directory).run trial).2.drops = trial.drops + 1 :=
  ⟨rfl, rfl⟩

/-- A trial counts one dropped cache at most, and at most one run more than that. -/
theorem counts_run (options : BuildOptions) (inputs : List Path) (trial : Trial) :
    let after := ((Build.run analyzer options inputs).run trial).2
    after.drops ≤ trial.drops + 1 ∧ after.runs + trial.drops ≤ trial.runs + after.drops + 1 := by
  intro after
  obtain ⟨log, cautious, logged⟩ := Build.run_logged analyzer options inputs trial
  have asked : ∀ sources state, trial.Counts state →
      trial.Counts ((analyzer.logged.analyze sources options).run state).2 := by
    intro sources state here
    obtain ⟨runs, drops⟩ := counts_analyze sources options state.1
    exact here.analyze runs drops _
  have dropped : ∀ state, trial.Counts state →
      trial.Counts ((analyzer.logged.dropCache options.cacheDir).run state).2 := by
    intro state here
    obtain ⟨runs, drops⟩ := counts_dropCache options.cacheDir state.1
    exact here.dropCache runs drops
  have start : trial.Counts (trial, []) := ⟨rfl, rfl⟩
  have kept := Build.run_keeps trial.Counts asked dropped inputs start
  rw [logged] at kept
  have runs : after.runs = trial.runs + log.countP (· ≠ .dropCache) := kept.runs
  have drops : after.drops = trial.drops + log.count .dropCache := kept.drops
  have fewDrops := cautious.drops_le
  have fewRuns := cautious.runs_le
  omega

/-- A cache that stays corrupt is dropped once. -/
example : ((Build.run analyzer { BuildOptions.default with exclude := [] } [⟨"good.py"⟩]).run
    ⟨⟨[(["good.py"], .file (.text "x = 1\n"))], []⟩, 2, 0, 0⟩).2.drops = 1 := by
  decide +kernel

end Trial

end Declarations
