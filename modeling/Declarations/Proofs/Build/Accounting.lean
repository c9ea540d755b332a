/-
This file proves that a build accounts for its inputs. Every visit becomes a module or a
failure, and no two visits share a name, so what is collected comes out once, as one or
the other. A build stops at the first fault in what it records, and only where faults are
not passed over.
-/

import Declarations.Proofs.Build.CacheHistory
import Declarations.Proofs.Build.Collecting
import Declarations.Proofs.Build.Outcomes
import Declarations.Proofs.Build.Runs
import Declarations.Proofs.Graph.ModuleSet

namespace Declarations

/-! ### What is collected -/

namespace BuildSource

variable {disk : Disk} {patterns : List GlobPattern}

theorem nodup_firstOfEach (seen : List String) (sources : List BuildSource) :
    ((firstOfEach seen sources).map (·.module)).Nodup ∧
      ∀ source ∈ firstOfEach seen sources, source.module ∉ seen := by
  refine ⟨?_, fun source member => (of_mem_firstOfEach member).1⟩
  induction sources generalizing seen with
  | nil => exact List.nodup_nil
  | cons first rest inductionHypothesis =>
    unfold firstOfEach
    split
    · exact inductionHypothesis seen
    · rw [List.map_cons, List.nodup_cons]
      refine ⟨fun member => ?_, inductionHypothesis _⟩
      obtain ⟨other, among, same⟩ := List.mem_map.mp member
      exact (of_mem_firstOfEach among).1 (same ▸ List.mem_cons_self)

/-- The failures of the inputs where nothing is. -/
def missingFrom (disk : Disk) (inputs : List Path) : List Failure :=
  (inputs.filter fun input => !disk.isDirectory input && !disk.isFile input).map fun input =>
    ⟨none, some input, .sourceNotFound input⟩

theorem expand_missing (inputs : List Path) :
    (expand disk patterns inputs).2 = missingFrom disk inputs := by
  unfold expand missingFrom
  dsimp only
  induction inputs with
  | nil => rfl
  | cons input rest inductionHypothesis =>
    rw [List.map_cons, List.flatMap_cons, inductionHypothesis, List.filter_cons]
    cases disk.isDirectory input <;> cases disk.isFile input <;> rfl

theorem collect_cases {exclude : List String} {inputs : List Path} {sources : List BuildSource}
    {missing : List Failure} (success : collect disk exclude inputs = .ok (sources, missing)) :
    (sources.map (·.module)).Nodup ∧ missing = missingFrom disk inputs := by
  obtain ⟨patterns, -, rfl, rfl⟩ := collect_eq_ok_iff.mp success
  exact ⟨(nodup_firstOfEach [] _).1, expand_missing inputs⟩

end BuildSource

/-! ### What visits give -/

namespace Analysis

variable {disk : Disk} {options : BuildOptions} {usable : Option Cache} {policy : FollowImports}
  {read : BuildSource → Except Problem Reading} {sources : List BuildSource} {visits : List Visit}

/-- The failures of a visit. Those of a file that an import led to count unless they are passed
over in silence. -/
def failuresOf (policy : FollowImports) (visit : Visit) : List Failure :=
  match visit.outcome with
  | .ok _ => []
  | .error problem =>
    if visit.isFollowed && policy == .silent then []
    else [⟨some visit.source.module, some visit.source.path, problem⟩]

theorem failures_addVisit (analysis : Analysis) (visit : Visit) :
    (addVisit policy analysis visit).failures = analysis.failures ++ failuresOf policy visit := by
  unfold addVisit failuresOf
  cases visit.outcome with
  | ok reading => exact (List.append_nil _).symm
  | error problem =>
    dsimp only
    split
    · exact (List.append_nil _).symm
    · rfl

theorem failures_foldl_addVisit (visits : List Visit) (analysis : Analysis) :
    (visits.foldl (addVisit policy) analysis).failures =
      analysis.failures ++ visits.flatMap (failuresOf policy) := by
  induction visits generalizing analysis with
  | nil => exact (List.append_nil _).symm
  | cons visit rest inductionHypothesis =>
    rw [List.foldl_cons, inductionHypothesis, failures_addVisit, List.append_assoc,
      List.flatMap_cons]

theorem failures_ofProgress (progress : Progress) :
    (ofProgress policy progress).failures =
      progress.failures ++ progress.visits.flatMap (failuresOf policy) :=
  failures_foldl_addVisit progress.visits _

/-- A failure of a visit has the name of its source, and is not passed over. -/
theorem of_mem_failuresOf {visit : Visit} {failure : Failure}
    (member : failure ∈ failuresOf policy visit) :
    failure.module = some visit.source.module ∧
      visit.outcome = .error failure.problem ∧ (visit.isFollowed = true → policy ≠ .silent) := by
  unfold failuresOf at member
  split at member
  · cases member
  next problem outcome =>
    split at member
    · cases member
    next loud =>
      obtain rfl := List.mem_singleton.mp member
      refine ⟨rfl, outcome, fun isFollowed isSilent => loud ?_⟩
      rw [isFollowed, isSilent]
      rfl

/-- Whether the modules of some visits have the names of their sources. -/
def AreNamed (visits : List Visit) : Prop :=
  ∀ visit ∈ visits, ∀ reading, visit.outcome = .ok reading →
    reading.module.name = visit.source.module

/-- Whether a visit gave a module. -/
def IsModule (visit : Visit) : Prop :=
  ∃ reading, visit.outcome = .ok reading

theorem mem_names_addVisit {analysis : Analysis} {visit : Visit} (named : AreNamed [visit])
    {name : String} :
    name ∈ (addVisit policy analysis visit).modules.names ↔
      name ∈ analysis.modules.names ∨ (IsModule visit ∧ visit.source.module = name) := by
  have isNamed := named visit List.mem_cons_self
  unfold addVisit IsModule
  cases outcome : visit.outcome with
  | ok reading =>
    dsimp only [ModuleSet.add]
    rw [NameMap.mem_names_insert, isNamed reading outcome, or_comm, eq_comm]
    simp
  | error problem =>
    dsimp only
    split <;> simp

theorem mem_names_foldl_addVisit {visits : List Visit} (named : AreNamed visits)
    (analysis : Analysis) {name : String} :
    name ∈ (visits.foldl (addVisit policy) analysis).modules.names ↔
      name ∈ analysis.modules.names ∨
        ∃ visit ∈ visits, IsModule visit ∧ visit.source.module = name := by
  induction visits generalizing analysis with
  | nil => simp
  | cons visit rest inductionHypothesis =>
    obtain ⟨first, others⟩ := List.forall_mem_cons.mp named
    rw [List.foldl_cons, inductionHypothesis others,
      mem_names_addVisit (List.forall_mem_singleton.mpr first), or_assoc]
    simp

/-- Each module is counted at most once as taken from the cache. -/
theorem cached_foldl_addVisit {visits : List Visit} (named : AreNamed visits)
    (distinct : (visits.map (·.source.module)).Nodup) {analysis : Analysis}
    (new : ∀ visit ∈ visits, visit.source.module ∉ analysis.modules.names)
    (fewer : analysis.cached ≤ analysis.modules.size) :
    (visits.foldl (addVisit policy) analysis).cached ≤
      (visits.foldl (addVisit policy) analysis).modules.size := by
  induction visits generalizing analysis with
  | nil => exact fewer
  | cons visit rest inductionHypothesis =>
    obtain ⟨first, others⟩ := List.forall_mem_cons.mp named
    rw [List.map_cons, List.nodup_cons] at distinct
    rw [List.foldl_cons]
    refine inductionHypothesis others distinct.2 (fun other member => ?_) ?_
    · rw [mem_names_addVisit (List.forall_mem_singleton.mpr first), not_or]
      refine ⟨new other (List.mem_cons_of_mem _ member), fun ⟨_, same⟩ => distinct.1 ?_⟩
      rw [same]
      exact List.mem_map_of_mem member
    · have isNew := new visit List.mem_cons_self
      unfold addVisit
      cases outcome : visit.outcome with
      | ok reading =>
        rw [← first reading outcome] at isNew
        dsimp only [ModuleSet.add]
        rw [NameMap.size_insert _ isNew]
        split <;> omega
      | error problem =>
        dsimp only
        split <;> exact fewer

theorem mem_names_ofProgress {progress : Progress} (named : AreNamed progress.visits)
    {name : String} :
    name ∈ (ofProgress policy progress).modules.names ↔
      ∃ visit ∈ progress.visits, IsModule visit ∧ visit.source.module = name :=
  (mem_names_foldl_addVisit named _).trans (or_iff_right List.not_mem_nil)

/-- Where no two visits have the same name, a name is there when its visit gave a module. -/
theorem module_mem_names_ofProgress {progress : Progress} (named : AreNamed progress.visits)
    (distinct : (progress.visits.map (·.source.module)).Nodup) {visit : Visit}
    (member : visit ∈ progress.visits) :
    visit.source.module ∈ (ofProgress policy progress).modules.names ↔ IsModule visit := by
  rw [mem_names_ofProgress named]
  refine ⟨fun ⟨other, among, isModule, same⟩ => ?_, fun isModule => ⟨visit, member, isModule, rfl⟩⟩
  rwa [← List.inj_on_of_nodup_map distinct among member same]

theorem cached_ofProgress_le {progress : Progress} (named : AreNamed progress.visits)
    (distinct : (progress.visits.map (·.source.module)).Nodup) :
    (ofProgress policy progress).cached ≤ (ofProgress policy progress).modules.size :=
  cached_foldl_addVisit named distinct (fun _ _ => List.not_mem_nil) (Nat.zero_le 0)

/-! ### What is read -/

theorem name_of_read {source : BuildSource} {reading : Reading}
    (success : Analysis.read disk options usable source = .ok reading) :
    reading.module.name = source.module := by
  obtain ⟨origin, -, -, ⟨cache, got, -⟩ | ⟨lowered, -⟩⟩ := read_cases success
  · obtain ⟨_, _, _, _, named⟩ := Cache.get?_cases got
    exact named
  · exact (Origin.lower_cases lowered).2

/-- A file whose declarations cannot be read has a syntax error. -/
theorem syntaxError_of_read {source : BuildSource} {problem : Problem}
    (failed : Analysis.read disk options usable source = .error problem)
    (isAnalysis : problem.isAnalysis = true) :
    ∃ line, problem = .analysis source.path (.syntaxError line) := by
  unfold Analysis.read at failed
  cases given : Origin.ofSource disk options source with
  | error other =>
    simp only [given, bind, Except.bind] at failed
    cases failed
    unfold Origin.ofSource Origin.sourceText at given
    split at given <;> cases given <;> cases isAnalysis
  | ok origin =>
    simp only [given, bind, Except.bind] at failed
    split at failed
    · cases failed
    · cases lowered : origin.lower source.module with
      | ok module =>
        rw [lowered] at failed
        cases failed
      | error other =>
        rw [lowered] at failed
        cases failed
        unfold Origin.lower at lowered
        split at lowered
        · cases lowered
        next line _ =>
          cases lowered
          exact ⟨line, by rw [Origin.path_of_ofSource given]⟩

/-- The cache of a build. -/
def cacheOf (options : BuildOptions) : Cache :=
  ⟨options.cacheDir, version, options.skipVersionCheck⟩

/-- The disks from which a build reads its sources, and what it may take modules from: the disk as
it is found, or with the directories of the cache, which may have been dropped before. -/
inductive Prepared (options : BuildOptions) (found : Disk) : Disk → Option Cache → Prop
  | plain (off : options.incremental = false) : Prepared options found found none
  | opened {opened : Disk} {usable : Option Cache} (incremental : options.incremental = true)
      (made : found.makeDirectories (cacheOf options).entries = .ok opened)
      (only : ∀ cache ∈ usable, cache = cacheOf options) : Prepared options found opened usable
  | dropped {corrupt bare opened : Disk} {usable : Option Cache}
      (incremental : options.incremental = true)
      (first : found.makeDirectories (cacheOf options).entries = .ok corrupt)
      (removed : Cache.remove options.cacheDir corrupt = .ok bare)
      (made : bare.makeDirectories (cacheOf options).entries = .ok opened)
      (only : ∀ cache ∈ usable, cache = cacheOf options) : Prepared options found opened usable

/-- Whether something is what reading the sources of a build records. Without sources nothing is
read. -/
def Reached (options : BuildOptions) (found : Disk) (sources : List BuildSource)
    (progress : Progress) : Prop :=
  (sources = [] ∧ progress = ⟨[], [], [], []⟩) ∨
    (sources ≠ [] ∧ ∃ disk usable, Prepared options found disk usable ∧
      progress = visitUsing disk options usable sources)

namespace Reached

variable {progress : Progress}

/-- What is recorded comes from the visits on some disk. -/
theorem exists_visitUsing (reached : Reached options disk sources progress) :
    ∃ disk usable, progress = visitUsing disk options usable sources := by
  obtain ⟨rfl, rfl⟩ | ⟨-, disk, usable, -, same⟩ := reached
  · exact ⟨disk, none, (visitUsing_nil disk options none).symm⟩
  · exact ⟨disk, usable, same⟩

/-- The inputs are visited, and what imports led to. -/
theorem visits_eq (reached : Reached options disk sources progress) :
    ∃ disk usable followed, progress.visits =
      visitsOf (Analysis.read disk options usable) false sources ++
        visitsOf (Analysis.read disk options usable) true followed := by
  obtain ⟨disk, usable, rfl⟩ := reached.exists_visitUsing
  obtain ⟨followed, same⟩ :=
    visits_visitAll disk options.followImports (Analysis.read disk options usable) sources
  exact ⟨disk, usable, followed, same⟩

theorem outcome_eq (reached : Reached options disk sources progress) :
    ∃ disk usable, ∀ visit ∈ progress.visits,
      visit.outcome = Analysis.read disk options usable visit.source := by
  obtain ⟨disk, usable, followed, same⟩ := reached.visits_eq
  refine ⟨disk, usable, fun visit member => ?_⟩
  rw [same, List.mem_append] at member
  rcases member with input | behind
  · obtain ⟨source, -, rfl⟩ := List.mem_map.mp input
    rfl
  · obtain ⟨source, -, rfl⟩ := List.mem_map.mp behind
    rfl

theorem areNamed (reached : Reached options disk sources progress) : AreNamed progress.visits := by
  obtain ⟨disk, usable, outcomes⟩ := reached.outcome_eq
  intro visit member reading outcome
  rw [outcomes visit member] at outcome
  exact name_of_read outcome

theorem syntaxError (reached : Reached options disk sources progress) {visit : Visit}
    (member : visit ∈ progress.visits) {problem : Problem}
    (failed : visit.outcome = .error problem) (isAnalysis : problem.isAnalysis = true) :
    ∃ line, problem = .analysis visit.source.path (.syntaxError line) := by
  obtain ⟨disk, usable, outcomes⟩ := reached.outcome_eq
  rw [outcomes visit member] at failed
  exact syntaxError_of_read failed isAnalysis

theorem nodup (reached : Reached options disk sources progress)
    (distinct : (sources.map (·.module)).Nodup) :
    (progress.visits.map (·.source.module)).Nodup := by
  obtain ⟨disk, usable, rfl⟩ := reached.exists_visitUsing
  exact nodup_visited disk options usable distinct

theorem exists_visit (reached : Reached options disk sources progress) {source : BuildSource}
    (input : source ∈ sources) :
    ∃ visit ∈ progress.visits, visit.source = source ∧ visit.isFollowed = false := by
  obtain ⟨disk, usable, followed, same⟩ := reached.visits_eq
  have member : (⟨source, false, Analysis.read disk options usable source⟩ : Visit) ∈
      visitsOf (Analysis.read disk options usable) false sources := List.mem_map_of_mem input
  exact ⟨_, same ▸ List.mem_append_left _ member, rfl, rfl⟩

theorem source_cases (reached : Reached options disk sources progress) {visit : Visit}
    (member : visit ∈ progress.visits) : visit.source ∈ sources ∨ visit.isFollowed = true := by
  obtain ⟨disk, usable, followed, same⟩ := reached.visits_eq
  rw [same, List.mem_append] at member
  rcases member with input | behind
  · obtain ⟨source, among, rfl⟩ := List.mem_map.mp input
    exact .inl among
  · obtain ⟨source, -, rfl⟩ := List.mem_map.mp behind
    exact .inr rfl

/-- Imports are recorded as leading outside only where that is an error. -/
theorem of_mem_failures (reached : Reached options disk sources progress) {failure : Failure}
    (member : failure ∈ progress.failures) :
    options.followImports = .error ∧ failure.problem.isAnalysis = true := by
  obtain ⟨disk, usable, rfl⟩ := reached.exists_visitUsing
  have recorded : failure ∈ List.flatMap _ _ := failures_visitAll sources ▸ member
  obtain ⟨visit, -, among⟩ := List.mem_flatMap.mp recorded
  unfold Analysis.recorded at among
  split at among
  next isError =>
    obtain ⟨found, -, rfl⟩ := List.mem_map.mp among
    exact ⟨isError, rfl⟩
  next => cases among

end Reached

/-- A run with a cache reads from the disk with the directories of the cache. -/
theorem opened_of_run (incremental : options.incremental = true) {analysis : Analysis}
    {after : Disk} (success : (run sources options).run disk = (.ok analysis, after)) :
    ∃ opened usable, disk.makeDirectories (cacheOf options).entries = .ok opened ∧
      (∀ cache ∈ usable, cache = cacheOf options) ∧
      analysis = ofProgress options.followImports (visitUsing opened options usable sources) := by
  have ends := ends_run disk sources incremental
  rw [success] at ends
  cases ends with
  | done opened _ usable _ made only => exact ⟨opened, usable, made, only, rfl⟩

theorem prepared_of_run {analysis : Analysis} {after : Disk}
    (success : (run sources options).run disk = (.ok analysis, after)) :
    ∃ opened usable, Prepared options disk opened usable ∧
      analysis = ofProgress options.followImports (visitUsing opened options usable sources) := by
  cases incremental : options.incremental with
  | true =>
    obtain ⟨opened, usable, made, only, same⟩ := opened_of_run incremental success
    exact ⟨opened, usable, .opened incremental made only, same⟩
  | false =>
    unfold run at success
    rw [incremental, if_neg Bool.false_ne_true] at success
    cases success
    exact ⟨disk, none, .plain incremental, rfl⟩

/-- A run that finds the cache corrupt has only made its directories. -/
theorem opened_of_corrupt {outcome : Except Problem Analysis} {after : Disk}
    (failed : (run sources options).run disk = (outcome, after))
    (corrupt : isCorrupt outcome = true) :
    options.incremental = true ∧ disk.makeDirectories (cacheOf options).entries = .ok after := by
  cases incremental : options.incremental with
  | true =>
    have ends := ends_run disk sources incremental
    rw [failed] at ends
    cases ends with
    | corrupt problem _ made => exact ⟨rfl, made⟩
    | _ => cases corrupt
  | false =>
    unfold run at failed
    rw [incremental, if_neg Bool.false_ne_true] at failed
    cases failed
    cases corrupt

end Analysis

namespace Build

open Analysis (Prepared Progress Reached failuresOf ofProgress visitUsing)

variable {disk after : Disk} {options : BuildOptions} {sources : List BuildSource}
  {analysis : Analysis}

theorem removed_of_dropCache
    (success : (Analyzer.standard.dropCache options.cacheDir).run disk = (.ok (), after)) :
    Cache.remove options.cacheDir disk = .ok after := by
  have dropped : (Work.onDisk (Cache.remove options.cacheDir)).run disk = (.ok (), after) := success
  cases removed : Cache.remove options.cacheDir disk with
  | ok bare =>
    rw [Work.run_onDisk_ok removed] at dropped
    cases dropped
    rfl
  | error fault =>
    rw [Work.run_onDisk_error removed] at dropped
    cases dropped

/-- What is read comes from visits, also where the cache was dropped before. -/
theorem prepared_of_analyze
    (success : (analyze .standard options sources).run disk = (.ok analysis, after)) :
    ∃ opened usable, Prepared options disk opened usable ∧
      analysis = ofProgress options.followImports (visitUsing opened options usable sources) := by
  rw [run_analyze] at success
  cases first : (Analyzer.standard.analyze sources options).run disk with
  | mk outcome made =>
    rw [first] at success
    dsimp only at success
    split at success
    next corrupt =>
      obtain ⟨incremental, found⟩ := Analysis.opened_of_corrupt first corrupt
      cases dropped : (Analyzer.standard.dropCache options.cacheDir).run made with
      | mk result bare =>
        cases result with
        | error problem =>
          rw [Work.run_bind_error dropped] at success
          cases success
        | ok =>
          rw [Work.run_bind_ok dropped] at success
          obtain ⟨opened, usable, again, only, same⟩ := Analysis.opened_of_run incremental success
          have removed := removed_of_dropCache dropped
          exact ⟨opened, usable, .dropped incremental found removed again only, same⟩
    next =>
      cases success
      exact Analysis.prepared_of_run first

theorem reached_of_reading
    (success : (reading .standard options sources).run disk = (.ok analysis, after)) :
    ∃ progress, Reached options disk sources progress ∧
      analysis = ofProgress options.followImports progress := by
  unfold reading at success
  split at success
  next empty =>
    cases success
    exact ⟨_, .inl ⟨List.isEmpty_iff.mp empty, rfl⟩, rfl⟩
  next filled =>
    obtain ⟨opened, usable, prepared, same⟩ := prepared_of_analyze success
    exact ⟨_, .inr ⟨by simpa using filled, opened, usable, prepared, rfl⟩, same⟩

/-! ### Accounts -/

/-- The failures under a name. -/
def failuresFor (name : String) (failures : List Failure) : List Failure :=
  failures.filter fun failure => failure.module == some name

/-- How a build accounts for what was visited: every source came out as a module or as one failure,
never as both, and what else failed are inputs that are missing and, unless they are passed over
in silence, files that imports led to. -/
structure Accounts (policy : FollowImports) (sources : List BuildSource) (missing : List Failure)
    (visits : List Visit) (result : BuildResult) : Prop where
  once : ∀ source ∈ sources,
    (source.module ∈ result.modules.names ∧ failuresFor source.module result.failures = []) ∨
      (source.module ∉ result.modules.names ∧
        (failuresFor source.module result.failures).length = 1)
  failures : ∃ others, result.failures = missing ++ others ∧ ∀ failure ∈ others,
    ∃ visit ∈ visits, failure.module = some visit.source.module ∧
      (visit.source ∈ sources ∨ (visit.isFollowed = true ∧ policy ≠ .silent))
  cached : result.cached ≤ result.modules.size

theorem failuresFor_append (name : String) (first second : List Failure) :
    failuresFor name (first ++ second) = failuresFor name first ++ failuresFor name second :=
  List.filter_append _ _

theorem failuresFor_eq_self {name : String} {failures : List Failure}
    (all : ∀ failure ∈ failures, failure.module = some name) :
    failuresFor name failures = failures :=
  List.filter_eq_self.mpr fun failure member => beq_iff_eq.mpr (all failure member)

theorem failuresFor_eq_nil {name : String} {failures : List Failure}
    (other : ∀ failure ∈ failures, failure.module ≠ some name) : failuresFor name failures = [] :=
  List.filter_eq_nil_iff.mpr fun failure member same => other failure member (eq_of_beq same)

/-- An input that is missing has no name. -/
theorem failuresFor_missingFrom (name : String) (disk : Disk) (inputs : List Path) :
    failuresFor name (BuildSource.missingFrom disk inputs) = [] := by
  refine failuresFor_eq_nil fun failure missing same => ?_
  obtain ⟨path, -, rfl⟩ := List.mem_map.mp missing
  cases same

/-- Where no two visits have the same name, the failures under a name are those of one visit. -/
theorem failuresFor_flatMap {policy : FollowImports} {visits : List Visit} {visit : Visit}
    (distinct : (visits.map (·.source.module)).Nodup) (member : visit ∈ visits) :
    failuresFor visit.source.module (visits.flatMap (failuresOf policy)) =
      failuresOf policy visit := by
  have own (visit : Visit) : ∀ failure ∈ failuresOf policy visit,
      failure.module = some visit.source.module :=
    fun failure among => (Analysis.of_mem_failuresOf among).1
  induction visits with
  | nil => cases member
  | cons first rest inductionHypothesis =>
    rw [List.map_cons, List.nodup_cons] at distinct
    rw [List.flatMap_cons, failuresFor_append]
    rcases List.mem_cons.mp member with rfl | later
    · have others : failuresFor visit.source.module (rest.flatMap (failuresOf policy)) =
          [] := by
        refine failuresFor_eq_nil fun failure among same => ?_
        obtain ⟨other, later, inside⟩ := List.mem_flatMap.mp among
        rw [own other failure inside, Option.some_inj] at same
        exact distinct.1 (same ▸ List.mem_map_of_mem later)
      rw [failuresFor_eq_self (own visit), others, List.append_nil]
    · have apart : failuresFor visit.source.module (failuresOf policy first) = [] := by
        refine failuresFor_eq_nil fun failure inside same => ?_
        rw [own first failure inside, Option.some_inj] at same
        exact distinct.1 (same ▸ List.mem_map_of_mem later)
      rw [apart, List.nil_append, inductionHypothesis distinct.2 later]

/-- What a finished build says of its names, failures and cache is what reading said. -/
theorem conclude_cases {policy : FollowImports} {missing : List Failure} {result : BuildResult}
    (success : conclude policy missing analysis = .ok result) :
    firstProblem? policy (missing ++ analysis.failures) = none ∧
      result.modules.names = analysis.modules.names ∧
      result.failures = missing ++ analysis.failures ∧ result.cached = analysis.cached := by
  unfold conclude at success
  split at success
  · cases success
  next none =>
    cases success
    exact ⟨none, (NameMap.names_map _ _).trans (NameMap.names_map _ _), rfl, rfl⟩

/-! ### Faults -/

/-- The problem of a failure, where it comes from reading declarations. -/
def analysisProblem? (failure : Failure) : Option Problem :=
  if failure.problem.isAnalysis then some failure.problem else none

theorem firstProblem?_eq {policy : FollowImports} (loud : policy ≠ .silent)
    (failures : List Failure) :
    firstProblem? policy failures = (failures.filterMap analysisProblem?).head? := by
  unfold firstProblem?
  rw [if_neg (by simpa using loud), List.head?_filterMap]
  induction failures with
  | nil => rfl
  | cons first rest inductionHypothesis =>
    rw [List.find?_cons, List.findSome?_cons, ← inductionHypothesis]
    unfold analysisProblem?
    cases first.problem.isAnalysis <;> rfl

theorem filterMap_missingFrom (disk : Disk) (inputs : List Path) :
    (BuildSource.missingFrom disk inputs).filterMap analysisProblem? = [] := by
  refine List.filterMap_eq_nil_iff.mpr fun failure member => ?_
  obtain ⟨input, -, rfl⟩ := List.mem_map.mp member
  rfl

/-- The problem of a file with a syntax error. -/
def syntaxProblem? (visit : Visit) : Option Problem :=
  match visit.outcome with
  | .error (.analysis path (.syntaxError line)) => some (.analysis path (.syntaxError line))
  | _ => none

theorem filterMap_of_isAnalysis {failures : List Failure}
    (all : ∀ failure ∈ failures, failure.problem.isAnalysis = true) :
    failures.filterMap analysisProblem? = failures.map (·.problem) := by
  rw [← List.filterMap_eq_map]
  exact List.filterMap_congr fun failure member => if_pos (all failure member)

theorem filterMap_failuresOf {policy : FollowImports} (loud : policy ≠ .silent) {visit : Visit}
    (syntaxOnly : ∀ problem, visit.outcome = .error problem → problem.isAnalysis = true →
      ∃ line, problem = .analysis visit.source.path (.syntaxError line)) :
    (failuresOf policy visit).filterMap analysisProblem? =
      (syntaxProblem? visit).toList := by
  have shown : (visit.isFollowed && policy == .silent) = false := by
    rw [beq_false_of_ne loud, Bool.and_false]
  unfold failuresOf syntaxProblem? analysisProblem?
  cases outcome : visit.outcome with
  | ok reading => rfl
  | error problem =>
    dsimp only
    rw [shown, if_neg Bool.false_ne_true]
    cases isAnalysis : problem.isAnalysis with
    | true =>
      obtain ⟨line, rfl⟩ := syntaxOnly problem outcome isAnalysis
      rfl
    | false =>
      cases problem <;> first | rfl | cases isAnalysis

/-- The faults that reading records: imports that lead outside the inputs, and then files with
syntax errors, each in the order of the visits. -/
def faults (progress : Analysis.Progress) : List Problem :=
  progress.failures.map (·.problem) ++ progress.visits.filterMap syntaxProblem?

/-- Unless faults are passed over, the first problem is the first fault. -/
theorem firstProblem?_reached {progress : Progress} (reached : Reached options disk sources progress)
    (loud : options.followImports ≠ .silent) (inputs : List Path) :
    firstProblem? options.followImports (BuildSource.missingFrom disk inputs ++
        (ofProgress options.followImports progress).failures) = (faults progress).head? := by
  have syntaxErrors : (progress.visits.flatMap
      (failuresOf options.followImports)).filterMap analysisProblem? =
        progress.visits.filterMap syntaxProblem? := by
    rw [List.filterMap_flatMap, List.filterMap_eq_flatMap_toList]
    exact List.flatMap_congr fun visit member =>
      filterMap_failuresOf loud fun problem failed => reached.syntaxError member failed
  rw [firstProblem?_eq loud, Analysis.failures_ofProgress, List.filterMap_append,
    filterMap_missingFrom, List.nil_append, List.filterMap_append, syntaxErrors,
    filterMap_of_isAnalysis fun failure member => (reached.of_mem_failures member).2, faults]

/-- A build that finishes found no import that leads outside its inputs. -/
theorem failures_eq_nil_of_conclude {progress : Progress} {result : BuildResult}
    {inputs : List Path} (reached : Reached options disk sources progress)
    (success : conclude options.followImports (BuildSource.missingFrom disk inputs)
      (ofProgress options.followImports progress) = .ok result) : progress.failures = [] := by
  have none := (conclude_cases success).1
  refine List.eq_nil_iff_forall_not_mem.mpr fun failure member => ?_
  have loud : options.followImports ≠ .silent := by
    rw [(reached.of_mem_failures member).1]
    decide
  rw [firstProblem?_reached reached loud, List.head?_eq_none_iff, faults,
    List.append_eq_nil_iff, List.map_eq_nil_iff] at none
  rw [none.1] at member
  cases member

/-- A build that finishes accounts for its inputs. -/
theorem accounts_of_conclude {progress : Progress} {result : BuildResult} {inputs : List Path}
    (reached : Reached options disk sources progress) (distinct : (sources.map (·.module)).Nodup)
    (success : conclude options.followImports (BuildSource.missingFrom disk inputs)
      (ofProgress options.followImports progress) = .ok result) :
    Accounts options.followImports sources (BuildSource.missingFrom disk inputs)
      progress.visits result := by
  obtain ⟨-, names, failures, cached⟩ := conclude_cases success
  rw [Analysis.failures_ofProgress, failures_eq_nil_of_conclude reached success,
    List.nil_append] at failures
  have apart := reached.nodup distinct
  constructor
  case once =>
    intro source input
    obtain ⟨visit, member, rfl, isInput⟩ := reached.exists_visit input
    have own : failuresFor visit.source.module result.failures =
        failuresOf options.followImports visit := by
      rw [failures, failuresFor_append, failuresFor_missingFrom, List.nil_append,
        failuresFor_flatMap apart member]
    rw [own, names, Analysis.module_mem_names_ofProgress reached.areNamed apart member]
    unfold failuresOf Analysis.IsModule
    cases outcome : visit.outcome with
    | ok reading => exact .inl ⟨⟨reading, rfl⟩, rfl⟩
    | error problem =>
      refine .inr ⟨fun ⟨_, same⟩ => (nomatch same), ?_⟩
      rw [isInput]
      rfl
  case failures =>
    refine ⟨_, failures, fun failure member => ?_⟩
    obtain ⟨visit, visited, among⟩ := List.mem_flatMap.mp member
    obtain ⟨named, -, loud⟩ := Analysis.of_mem_failuresOf among
    refine ⟨visit, visited, named, (reached.source_cases visited).imp_right fun isFollowed => ?_⟩
    exact ⟨isFollowed, loud isFollowed⟩
  case cached =>
    have size : result.modules.size = (ofProgress options.followImports progress).modules.size := by
      have lengths := congrArg List.length names
      rwa [NameMap.names, NameMap.names, List.length_map, List.length_map] at lengths
    rw [cached, size]
    exact Analysis.cached_ofProgress_le reached.areNamed apart

/-! ### Ends -/

theorem conclude_eq_error_iff {policy : FollowImports} {missing : List Failure}
    {problem : Problem} :
    conclude policy missing analysis = .error problem ↔
      firstProblem? policy (missing ++ analysis.failures) = some problem := by
  unfold conclude
  cases firstProblem? policy (missing ++ analysis.failures) with
  | none => exact ⟨nofun, nofun⟩
  | some other => simp

/-- What a build gives whose sources could be read. -/
theorem run_of_reading {inputs : List Path} {missing : List Failure} (filled : inputs ≠ [])
    (valid : options.validate = .ok ())
    (collected : BuildSource.collect disk options.exclude inputs = .ok (sources, missing))
    (success : (reading .standard options sources).run disk = (.ok analysis, after)) :
    (run .standard options inputs).run disk =
      (conclude options.followImports missing analysis, after) := by
  have standard : Analyzer.standard.disk disk = disk := rfl
  rw [run_eq, if_neg (by simpa using filled), valid, standard]
  dsimp only
  rw [collected]
  dsimp only
  rw [success]
  rfl

/-- A build that finishes could read its sources. -/
theorem reading_of_run {inputs : List Path} {result : BuildResult}
    (success : (run .standard options inputs).run disk = (.ok result, after)) :
    ∃ sources missing analysis,
      BuildSource.collect disk options.exclude inputs = .ok (sources, missing) ∧
        (reading .standard options sources).run disk = (.ok analysis, after) ∧
        conclude options.followImports missing analysis = .ok result := by
  have standard : Analyzer.standard.disk disk = disk := rfl
  rw [run_eq, standard] at success
  split at success
  · cases success
  · split at success
    · cases success
    · split at success
      · cases success
      next sources missing collected =>
        cases read : (reading .standard options sources).run disk with
        | mk outcome final =>
          rw [read] at success
          obtain ⟨concluded, rfl⟩ := Prod.mk.inj success
          cases outcome with
          | error problem => cases concluded
          | ok analysis => exact ⟨sources, missing, analysis, collected, read, concluded⟩

/-- Whether a file was visited that has a syntax error. -/
def HasSyntaxError (visit : Visit) : Prop :=
  ∃ line, visit.outcome = .error (.analysis visit.source.path (.syntaxError line))

theorem isAnalysis_of_mem_faults {progress : Progress}
    (reached : Reached options disk sources progress) {problem : Problem}
    (member : problem ∈ faults progress) : ∃ path fault, problem = .analysis path fault := by
  rcases List.mem_append.mp member with outside | syntaxError
  · obtain ⟨failure, recorded, rfl⟩ := List.mem_map.mp outside
    have isAnalysis := (reached.of_mem_failures recorded).2
    generalize failure.problem = problem at isAnalysis
    cases problem <;> first | exact ⟨_, _, rfl⟩ | cases isAnalysis
  · obtain ⟨visit, -, same⟩ := List.mem_filterMap.mp syntaxError
    unfold syntaxProblem? at same
    split at same
    · exact ⟨_, _, (Option.some.inj same).symm⟩
    · cases same

theorem syntaxProblem?_ne_none_iff {progress : Progress}
    (reached : Reached options disk sources progress) {visit : Visit}
    (member : visit ∈ progress.visits) : syntaxProblem? visit ≠ none ↔ HasSyntaxError visit := by
  unfold syntaxProblem? HasSyntaxError
  constructor
  · intro some
    split at some
    next path line outcome =>
      obtain ⟨_, same⟩ := reached.syntaxError member outcome rfl
      exact ⟨_, outcome.trans (congrArg _ same)⟩
    next => exact absurd rfl some
  · rintro ⟨line, outcome⟩
    rw [outcome]
    exact nofun

/-- There are faults where a file has a syntax error or an import leads outside the inputs. -/
theorem faults_ne_nil_iff {progress : Progress} (reached : Reached options disk sources progress) :
    faults progress ≠ [] ↔ (∃ visit ∈ progress.visits, HasSyntaxError visit) ∨
      (options.followImports = .error ∧ progress.failures ≠ []) := by
  have outside : progress.failures ≠ [] ↔
      options.followImports = .error ∧ progress.failures ≠ [] := by
    refine (and_iff_right_of_imp fun some => ?_).symm
    obtain ⟨failure, member⟩ := List.exists_mem_of_ne_nil _ some
    exact (reached.of_mem_failures member).1
  have syntaxErrors : progress.visits.filterMap syntaxProblem? ≠ [] ↔
      ∃ visit ∈ progress.visits, HasSyntaxError visit := by
    rw [ne_eq, List.filterMap_eq_nil_iff]
    push Not
    exact exists_congr fun visit => and_congr_right (syntaxProblem?_ne_none_iff reached)
  rw [← outside, ← syntaxErrors, faults, ne_eq, List.append_eq_nil_iff, List.map_eq_nil_iff,
    not_and_or, or_comm]

/-- A build accounts for its inputs, ends with the first fault unless faults are passed over, and
asks its analyzer with caution. -/
theorem run_accounts (options : BuildOptions) (inputs : List Path) :
    (∀ disk result after, (run .standard options inputs).run disk = (.ok result, after) →
      ∃ sources progress,
        BuildSource.collect disk options.exclude inputs =
          .ok (sources, BuildSource.missingFrom disk inputs) ∧
        Reached options disk sources progress ∧
        Accounts options.followImports sources (BuildSource.missingFrom disk inputs)
          progress.visits result) ∧
    (∀ disk sources missing analysis after, inputs ≠ [] → options.validate = .ok () →
      BuildSource.collect disk options.exclude inputs = .ok (sources, missing) →
      (reading .standard options sources).run disk = (.ok analysis, after) →
      ∃ progress, Reached options disk sources progress ∧
        analysis = ofProgress options.followImports progress ∧
        ((∃ path fault, ((run .standard options inputs).run disk).1 =
            .error (.analysis path fault)) ↔
          options.followImports ≠ .silent ∧
            ((∃ visit ∈ progress.visits, HasSyntaxError visit) ∨
              (options.followImports = .error ∧ progress.failures ≠ []))) ∧
        (∀ problem, ((run .standard options inputs).run disk).1 = .error problem →
          (faults progress).head? = some problem) ∧
        (options.followImports = .silent →
          ∃ result, ((run .standard options inputs).run disk).1 = .ok result)) ∧
    ∀ (σ : Type) (analyzer : Analyzer σ) (state : σ), ∃ log, IsCautious log ∧
      (run analyzer.logged options inputs).run (state, []) =
        (((run analyzer options inputs).run state).1,
          ((run analyzer options inputs).run state).2, log) := by
  refine ⟨fun disk result after success => ?_,
    fun disk sources missing analysis after filled valid collected success => ?_,
    fun σ analyzer state => run_logged analyzer options inputs state⟩
  · obtain ⟨sources, missing, analysis, collected, read, concluded⟩ := reading_of_run success
    obtain ⟨distinct, rfl⟩ := BuildSource.collect_cases collected
    obtain ⟨progress, reached, rfl⟩ := reached_of_reading read
    exact ⟨sources, progress, collected, reached,
      accounts_of_conclude reached distinct concluded⟩
  · obtain ⟨-, rfl⟩ := BuildSource.collect_cases collected
    obtain ⟨progress, reached, rfl⟩ := reached_of_reading success
    rw [run_of_reading filled valid collected success]
    dsimp only
    have errorIff (problem : Problem) : conclude options.followImports
        (BuildSource.missingFrom disk inputs) (ofProgress options.followImports progress) =
          .error problem ↔
        options.followImports ≠ .silent ∧ (faults progress).head? = some problem := by
      rw [conclude_eq_error_iff]
      by_cases silent : options.followImports = .silent
      · rw [silent]
        exact ⟨nofun, fun both => absurd rfl both.1⟩
      · rw [firstProblem?_reached reached silent]
        exact (and_iff_right silent).symm
    refine ⟨progress, reached, rfl, ⟨?_, ?_⟩, fun problem failed => ?_, fun silent => ?_⟩
    · rintro ⟨path, fault, failed⟩
      obtain ⟨loud, first⟩ := (errorIff _).mp failed
      refine ⟨loud, (faults_ne_nil_iff reached).mp fun none => ?_⟩
      rw [none] at first
      cases first
    · rintro ⟨loud, some⟩
      obtain ⟨first, rest, same⟩ :=
        List.exists_cons_of_ne_nil ((faults_ne_nil_iff reached).mpr some)
      have member : first ∈ faults progress := same ▸ List.mem_cons_self
      obtain ⟨path, fault, rfl⟩ := isAnalysis_of_mem_faults reached member
      exact ⟨path, fault, (errorIff _).mpr ⟨loud, by rw [same]; rfl⟩⟩
    · exact ((errorIff problem).mp failed).2
    · cases concluded : conclude options.followImports (BuildSource.missingFrom disk inputs)
          (ofProgress options.followImports progress) with
      | error problem => exact absurd silent ((errorIff problem).mp concluded).1
      | ok result => exact ⟨result, rfl⟩

/-- A disk with a file that can be read and one that has a syntax error. -/
def mixedDisk : Disk :=
  ⟨[(["good.py"], .file (.text "x = 1\n")), (["bad.py"], .file (.text "x = = 1\n"))], []⟩

/-- Both files, and one that is missing. -/
def mixedInputs : List Path :=
  [⟨"good.py"⟩, ⟨"bad.py"⟩, ⟨"gone.py"⟩]

/-- The two as the sources of a build. -/
def mixedSources : List BuildSource :=
  [⟨⟨"/good.py"⟩, "good", ⟨"/"⟩⟩, ⟨⟨"/bad.py"⟩, "bad", ⟨"/"⟩⟩]

/-- The options of a build under a policy. -/
def mixedOptions (policy : FollowImports) : BuildOptions :=
  { BuildOptions.default with followImports := policy, exclude := [] }

theorem collect_mixed : BuildSource.collect mixedDisk [] mixedInputs =
    .ok (mixedSources, BuildSource.missingFrom mixedDisk mixedInputs) :=
  BuildSource.collect_eq_ok_iff.mpr
    ⟨[], rfl, by decide +kernel, (BuildSource.expand_missing _).symm⟩

/-- Passed over in silence, the syntax error stands beside the module that could be read; otherwise
it ends the build. -/
theorem run_accounts_mixed :
    (∃ result progress,
      ((run .standard (mixedOptions .silent) mixedInputs).run mixedDisk).1 = .ok result ∧
        Accounts .silent mixedSources (BuildSource.missingFrom mixedDisk mixedInputs)
          progress result) ∧
      ∃ problem progress,
        ((run .standard (mixedOptions .normal) mixedInputs).run mixedDisk).1 = .error problem ∧
          Reached (mixedOptions .normal) mixedDisk mixedSources progress ∧
          (faults progress).head? = some problem := by
  constructor
  · obtain ⟨accounted, ended, -⟩ := run_accounts (mixedOptions .silent) mixedInputs
    obtain ⟨_, _, _, _, _, finishes⟩ := ended mixedDisk mixedSources _ _ mixedDisk
      (List.cons_ne_nil _ _) rfl collect_mixed rfl
    obtain ⟨result, finished⟩ := finishes rfl
    obtain ⟨sources, progress, collected, -, accounts⟩ := accounted mixedDisk result
      ((run .standard (mixedOptions .silent) mixedInputs).run mixedDisk).2
      (by rw [← finished, Prod.mk.eta])
    cases collect_mixed.symm.trans collected
    exact ⟨result, progress.visits, finished, accounts⟩
  · obtain ⟨-, ended, -⟩ := run_accounts (mixedOptions .normal) mixedInputs
    obtain ⟨progress, reached, _, _, first, _⟩ := ended mixedDisk mixedSources _ _ mixedDisk
      (List.cons_ne_nil _ _) rfl collect_mixed rfl
    have stops : ((run .standard (mixedOptions .normal) mixedInputs).run
        mixedDisk).1.toOption.isNone = true := by
      decide +kernel
    cases outcome : ((run .standard (mixedOptions .normal) mixedInputs).run mixedDisk).1 with
    | ok result =>
      rw [outcome] at stops
      cases stops
    | error problem => exact ⟨problem, progress, rfl, reached, first problem outcome⟩

end Build

end Declarations
