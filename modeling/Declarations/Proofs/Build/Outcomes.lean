/-
This file says what reading sources visits and what it records. The inputs are visited
first and in order, and behind them what imports lead to. An import counts as leading
outside the inputs exactly where the name that it resolves to is not the name of an input;
which file the name leads to plays no part, so an input whose file can be found under a
second name is not known as an input under that name.
-/

import Declarations.Build.Builder
import Declarations.Proofs.Build.Worklist

namespace Declarations.Analysis

variable {search : ImportSearch} {disk : Disk} {policy : FollowImports}
  {read : BuildSource → Except Problem Reading} {sources : List BuildSource}

/-! ### Visits -/

/-- The visits of sources that are read one after the other. -/
def visitsOf (read : BuildSource → Except Problem Reading) (isFollowed : Bool)
    (sources : List BuildSource) : List Visit :=
  sources.map fun source => ⟨source, isFollowed, read source⟩

/-- Rounds visit more sources, all of them because imports led to them. -/
theorem visits_rounds (count : Nat) (progress : Progress) :
    ∃ followed, (rounds search disk policy read count progress).visits =
      progress.visits ++ visitsOf read true followed := by
  induction count generalizing progress with
  | zero => exact ⟨[], (List.append_nil _).symm⟩
  | succ count inductionHypothesis =>
    unfold rounds
    split
    · exact ⟨[], (List.append_nil _).symm⟩
    · obtain ⟨followed, same⟩ := inductionHypothesis (round search disk policy read true progress)
      refine ⟨progress.queue ++ followed, ?_⟩
      rw [same, visits_round, List.append_assoc, visitsOf, visitsOf, List.map_append]

/-- The inputs are visited in order, and then what imports lead to. -/
theorem visits_visitAll (disk : Disk) (policy : FollowImports)
    (read : BuildSource → Except Problem Reading) (sources : List BuildSource) :
    ∃ followed, (visitAll disk policy read sources).visits =
      visitsOf read false sources ++ visitsOf read true followed := by
  have more : ∃ followed, (visitAll disk policy read sources).visits =
      (round (ImportSearch.ofRoots (sources.map (·.base))) disk policy read false
        (outset sources)).visits ++ visitsOf read true followed :=
    visits_rounds _ _
  obtain ⟨followed, same⟩ := more
  refine ⟨followed, same.trans ?_⟩
  rw [visits_round]
  rfl

theorem mem_visits_of_input (disk : Disk) (options : BuildOptions) (usable : Option Cache)
    {source : BuildSource} (input : source ∈ sources) :
    ⟨source, false, Analysis.read disk options usable source⟩ ∈
      (visitUsing disk options usable sources).visits := by
  obtain ⟨followed, same⟩ := visits_visitAll disk options.followImports
    (Analysis.read disk options usable) sources
  rw [visitUsing, same]
  exact List.mem_append_left _ (List.mem_map_of_mem input)

/-! ### Imports that lead outside -/

/-- The failure of an import that leads outside the inputs. -/
def outsideFailure (source : BuildSource) (name : String) : Failure where
  module := some source.module
  path := some source.path
  problem := .analysis source.path (.outsideImport name)

/-- The failures that are recorded for the imports of a visit. -/
def recorded (search : ImportSearch) (disk : Disk) (policy : FollowImports) (seen : List String)
    (visit : Visit) : List Failure :=
  if policy = .error then
    (ledTo search disk seen visit).map fun found => outsideFailure visit.source found.module
  else []

theorem failures_inspect (progress : Progress) (visit : Visit) :
    (inspect search disk policy progress visit).failures =
      progress.failures ++ recorded search disk policy progress.seen visit := by
  rw [inspect_eq_note]
  cases policy <;> simp [note, recorded, outsideFailure]

theorem seen_inspect (ends : policy.follows = false) (progress : Progress) (visit : Visit) :
    (inspect search disk policy progress visit).seen = progress.seen := by
  rw [inspect_eq_note, seen_note, added, ends]
  exact List.append_nil _

/-- Whether the failures are those that were recorded for the visits. -/
def IsRecorded (search : ImportSearch) (disk : Disk) (policy : FollowImports)
    (sources : List BuildSource) (progress : Progress) : Prop :=
  (policy.follows = false → progress.seen = sources.map (·.module)) ∧
    progress.failures =
      progress.visits.flatMap (recorded search disk policy (sources.map (·.module)))

theorem IsRecorded.inspect {progress : Progress}
    (isRecorded : IsRecorded search disk policy sources progress) (visit : Visit) :
    IsRecorded search disk policy sources (inspect search disk policy progress visit) := by
  obtain ⟨seen, failures⟩ := isRecorded
  refine ⟨fun ends => (seen_inspect ends progress visit).trans (seen ends), ?_⟩
  rw [failures_inspect, visits_inspect, List.flatMap_append, List.flatMap_singleton, failures]
  congr 1
  unfold recorded
  split
  next isError =>
    subst isError
    rw [seen rfl]
  next => rfl

theorem IsRecorded.round {progress : Progress}
    (isRecorded : IsRecorded search disk policy sources progress) (isFollowed : Bool) :
    IsRecorded search disk policy sources
      (round search disk policy read isFollowed progress) :=
  List.foldlRecOn (motive := IsRecorded search disk policy sources) _ _ isRecorded
    fun _ before visit _ => before.inspect visit

theorem IsRecorded.rounds {progress : Progress}
    (isRecorded : IsRecorded search disk policy sources progress) (count : Nat) :
    IsRecorded search disk policy sources (rounds search disk policy read count progress) := by
  induction count generalizing progress with
  | zero => exact isRecorded
  | succ count inductionHypothesis =>
    unfold Analysis.rounds
    split
    · exact isRecorded
    · exact inductionHypothesis (isRecorded.round true)

/-- The failures that are recorded for imports, in the order of the visits. -/
theorem failures_visitAll (sources : List BuildSource) :
    (visitAll disk policy read sources).failures =
      (visitAll disk policy read sources).visits.flatMap
        (recorded (ImportSearch.ofRoots (sources.map (·.base))) disk policy
          (sources.map (·.module))) := by
  have outset : IsRecorded (ImportSearch.ofRoots (sources.map (·.base))) disk policy sources
      (outset sources) := ⟨fun _ => rfl, rfl⟩
  exact ((outset.round false).rounds (roundLimit disk sources)).2

/-- Without following imports, the inputs are all that is visited. -/
theorem visits_visitAll_of_not_follows (ends : policy.follows = false) :
    (visitAll disk policy read sources).visits = visitsOf read false sources := by
  have stays : ∀ (visits : List Visit) (progress : Progress),
      (visits.foldl (inspect (ImportSearch.ofRoots (sources.map (·.base))) disk policy)
        progress).queue = progress.queue := by
    intro visits
    induction visits with
    | nil => exact fun _ => rfl
    | cons visit rest inductionHypothesis =>
      intro progress
      rw [List.foldl_cons, inductionHypothesis, inspect_eq_note, queue_note, added, ends]
      exact List.append_nil _
  have done : (round (ImportSearch.ofRoots (sources.map (·.base))) disk policy read false
      (outset sources)).queue = [] := stays _ _
  have ended : visitAll disk policy read sources = _ := rounds_of_done read done _
  rw [ended, visits_round]
  rfl

/-- Whether a source is read and imports a module of some name. -/
def Imports (search : ImportSearch) (disk : Disk) (read : BuildSource → Except Problem Reading)
    (source : BuildSource) (name : String) : Prop :=
  ∃ reading symbol place, read source = .ok reading ∧ symbol ∈ reading.module.imports ∧
    search.moduleOf? disk symbol.target.key = some (name, place)

/-- An import is recorded as leading outside where its name is not that of an input. -/
theorem mem_failures_iff {failure : Failure} :
    failure ∈ (visitAll disk .error read sources).failures ↔
      ∃ source ∈ sources, ∃ name, failure = outsideFailure source name ∧
        name ∉ sources.map (·.module) ∧
        Imports (ImportSearch.ofRoots (sources.map (·.base))) disk read source name := by
  rw [failures_visitAll, visits_visitAll_of_not_follows rfl, List.mem_flatMap]
  constructor
  · rintro ⟨visit, member, among⟩
    obtain ⟨source, input, rfl⟩ := List.mem_map.mp member
    obtain ⟨found, led, rfl⟩ := List.mem_map.mp among
    obtain ⟨unseen, reading, success, symbol, imports, same⟩ := mem_ledTo.mp led
    exact ⟨source, input, found.module, rfl, unseen, reading, symbol, _, success, imports, same⟩
  · rintro ⟨source, input, name, rfl, unseen, reading, symbol, place, success, imports, same⟩
    refine ⟨_, List.mem_map_of_mem input, ?_⟩
    refine List.mem_map.mpr ⟨⟨place.1, name, place.2⟩, ?_, rfl⟩
    exact mem_ledTo.mpr ⟨unseen, reading, success, symbol, imports, same⟩

theorem name_of_outsideFailure {source other : BuildSource} {name named : String}
    (same : outsideFailure source name = outsideFailure other named) : name = named := by
  injection congrArg Failure.problem same with _ fault
  injection fault

/-- What is visited is an input, or found under a name that no input has. -/
theorem visited_source_cases {progress : Progress}
    (valid : Valid search disk policy read sources progress) {visit : Visit}
    (member : visit ∈ progress.visits) :
    visit.source ∈ sources ∨ (visit.source.module ∉ sources.map (·.module) ∧
      search.find? disk visit.source.module = some (visit.source.path, visit.source.base)) := by
  have file := valid.files visit.source (List.mem_append_left _ (List.mem_map_of_mem member))
  unfold sourceOf? at file
  cases input : sources.find? fun source => source.module == visit.source.module with
  | some source =>
    rw [input] at file
    cases file
    exact .inl (List.mem_of_find?_eq_some input)
  | none =>
    rw [input] at file
    obtain ⟨place, found, same⟩ := Option.map_eq_some_iff.mp file
    refine .inr ⟨fun named => ?_, ?_⟩
    · obtain ⟨source, among, same⟩ := List.mem_map.mp named
      exact List.find?_eq_none.mp input source among (beq_iff_eq.mpr same)
    · rw [found, ← same]

/-! ### Inputs under a second name -/

/-- Whether what is visited imports the files of the inputs under the names of the inputs only. -/
def NamesAgree (search : ImportSearch) (disk : Disk) (read : BuildSource → Except Problem Reading)
    (sources : List BuildSource) (progress : Progress) : Prop :=
  ∀ visit ∈ progress.visits, ∀ name, Imports search disk read visit.source name →
    ∀ source ∈ sources, ∀ root, search.find? disk name = some (source.path, root) →
      name = source.module

/-- What is visited is an input, or something visited imports it. -/
theorem Valid.imports_of_mem {progress : Progress}
    (valid : Valid search disk policy read sources progress) (done : progress.queue = [])
    {visit : Visit} (member : visit ∈ progress.visits) :
    visit.source.module ∈ sources.map (·.module) ∨
      ∃ other ∈ progress.visits, Imports search disk read other.source visit.source.module := by
  have visitedSeen := valid.visited_perm done
  cases follows : policy.follows with
  | false =>
    rw [valid.inputsOnly follows] at visitedSeen
    exact .inl (visitedSeen.subset (List.mem_map_of_mem member))
  | true =>
    -- The names for which this holds are closed under imports, and the visited ones are the least.
    have closed : IsClosed search disk read sources {name | name ∈ visited progress ∧
        (name ∈ sources.map (·.module) ∨
          ∃ other ∈ progress.visits, Imports search disk read other.source name)} := by
      refine ⟨?_, ?_⟩
      · intro source input
        exact ⟨visitedSeen.symm.subset (valid.inputs source input),
          .inl (List.mem_map_of_mem input)⟩
      · rintro name ⟨among, -⟩ other leads
        obtain ⟨first, firstVisited, rfl⟩ := List.mem_map.mp among
        refine ⟨visitedSeen.symm.subset (valid.edges follows first firstVisited other leads),
          .inr ⟨first, firstVisited, ?_⟩⟩
        have file := valid.files first.source
          (List.mem_append_left _ (List.mem_map_of_mem firstVisited))
        obtain ⟨source, reading, symbol, place, isFile, success, imported, same⟩ := leads
        cases file.symm.trans isFile
        exact ⟨reading, symbol, place, success, imported, same⟩
    exact ((valid.isLeast done follows).2 closed (List.mem_map_of_mem member)).2

/-- What something visited imports under a name that no input has is visited under that name. -/
theorem Valid.visits_outside {progress : Progress}
    (valid : Valid search disk policy read sources progress) (done : progress.queue = [])
    (follows : policy.follows = true) {visit : Visit} (member : visit ∈ progress.visits)
    {name : String} (imports : Imports search disk read visit.source name)
    (outside : name ∉ sources.map (·.module)) :
    ∃ path root, search.find? disk name = some (path, root) ∧
      ⟨path, name, root⟩ ∈ progress.visits.map (·.source) := by
  obtain ⟨reading, symbol, place, success, imported, same⟩ := imports
  have file := valid.files visit.source (List.mem_append_left _ (List.mem_map_of_mem member))
  have seen := valid.edges follows visit member name
    ⟨visit.source, reading, symbol, place, file, success, imported, same⟩
  obtain ⟨other, among, rfl⟩ := List.mem_map.mp ((valid.visited_perm done).symm.subset seen)
  rcases visited_source_cases valid among with input | ⟨-, found⟩
  · exact absurd (List.mem_map_of_mem input) outside
  · exact ⟨_, _, found, List.mem_map_of_mem among⟩

/-- Where names agree, what is visited with the path of an input is an input. -/
theorem Valid.isInput_of_namesAgree {progress : Progress}
    (valid : Valid search disk policy read sources progress) (done : progress.queue = [])
    (agree : NamesAgree search disk read sources progress) {visit : Visit}
    (member : visit ∈ progress.visits) (same : visit.source.path ∈ sources.map (·.path)) :
    visit.source ∈ sources := by
  rcases visited_source_cases valid member with input | ⟨outside, found⟩
  · exact input
  · obtain ⟨other, among, imports⟩ := (valid.imports_of_mem done member).resolve_left outside
    obtain ⟨source, input, samePath⟩ := List.mem_map.mp same
    rw [← samePath] at found
    rw [agree other among _ imports source input _ found] at outside
    exact absurd (List.mem_map_of_mem input) outside

/-- An import is recorded as leading outside the inputs exactly where the name that it resolves to
is not the name of an input, and a file is read for that name otherwise. So an import of the
file of an input is never recorded, and the file not read again, where the files of the inputs
are imported under the names of the inputs only. -/
theorem visitUsing_outside (disk : Disk) (options : BuildOptions) (usable : Option Cache)
    (sources : List BuildSource) (distinct : (sources.map (·.module)).Nodup) :
    let search := ImportSearch.ofRoots (sources.map (·.base))
    let read := Analysis.read disk options usable
    let final := visitUsing disk options usable sources
    (options.followImports = .error → ∀ failure, failure ∈ final.failures ↔
      ∃ source ∈ sources, ∃ name, failure = outsideFailure source name ∧
        name ∉ sources.map (·.module) ∧ Imports search disk read source name) ∧
    (options.followImports.follows = true → ∀ visit ∈ final.visits, ∀ name,
      Imports search disk read visit.source name → name ∉ sources.map (·.module) →
        ∃ path root, search.find? disk name = some (path, root) ∧
          ⟨path, name, root⟩ ∈ final.visits.map (·.source)) ∧
    (NamesAgree search disk read sources final →
      (options.followImports = .error → ∀ source ∈ sources, ∀ name,
        outsideFailure source name ∈ final.failures → ∀ path root,
          search.find? disk name = some (path, root) → path ∉ sources.map (·.path)) ∧
      ∀ visit ∈ final.visits, visit.source.path ∈ sources.map (·.path) →
        visit.source ∈ sources) := by
  intro search read final
  have valid : Valid search disk options.followImports read sources final :=
    (valid_outset distinct).steps (steps_visitAll sources)
  have done : final.queue = [] := queue_visitAll readsKeys_read distinct
  have recordedIff (isError : options.followImports = .error) (failure : Failure) :
      failure ∈ final.failures ↔ ∃ source ∈ sources, ∃ name, failure = outsideFailure source name ∧
        name ∉ sources.map (·.module) ∧ Imports search disk read source name := by
    have iff : failure ∈ (visitAll disk .error read sources).failures ↔ _ := mem_failures_iff
    rw [← isError] at iff
    exact iff
  refine ⟨recordedIff, fun follows visit member name => valid.visits_outside done follows member,
    fun agree => ⟨fun isError source input name failed path root found same => ?_,
      fun visit => valid.isInput_of_namesAgree done agree⟩⟩
  obtain ⟨importer, among, named, sameFailure, outside, imports⟩ :=
    (recordedIff isError _).mp failed
  obtain rfl := name_of_outsideFailure sameFailure
  obtain ⟨other, otherInput, samePath⟩ := List.mem_map.mp same
  rw [← samePath] at found
  have visitedFirst : ⟨importer, false, read importer⟩ ∈ final.visits := by
    obtain ⟨followed, visits⟩ := visits_visitAll disk options.followImports read sources
    have member : (⟨importer, false, read importer⟩ : Visit) ∈ visitsOf read false sources :=
      List.mem_map_of_mem among
    exact visits.symm ▸ List.mem_append_left _ member
  rw [agree _ visitedFirst name imports other otherInput root found] at outside
  exact outside (List.mem_map_of_mem otherInput)

/-- A disk with a file that imports another one, which stands in a directory that is no package. -/
def twiceDisk : Disk :=
  ⟨[(["main.py"], .file (.text "import lib.a\n")), (["lib"], .directory),
    (["lib", "a.py"], .file (.text "x = 1\n"))], []⟩

/-- Both files as the sources of a build. -/
def twiceSources : List BuildSource :=
  [⟨"main.py"⟩, ⟨"lib/a.py"⟩].map (BuildSource.ofPath twiceDisk)

/-- The options of a build that follows imports, or not, as a policy says. -/
def twiceOptions (policy : FollowImports) : BuildOptions :=
  { BuildOptions.default with followImports := policy }

/-- The import is recorded, since no input is named as it is. -/
theorem visitUsing_outside_twice :
    (twiceSources.map (·.module)).Nodup ∧
      (visitUsing twiceDisk (twiceOptions .error) none twiceSources).failures.length = 1 ∧
      ∀ failure ∈ (visitUsing twiceDisk (twiceOptions .error) none twiceSources).failures,
        ∃ source ∈ twiceSources, ∃ name, failure = outsideFailure source name ∧
          name ∉ twiceSources.map (·.module) := by
  have distinct : (twiceSources.map (·.module)).Nodup := by decide +kernel
  have outside := visitUsing_outside twiceDisk (twiceOptions .error) none twiceSources distinct
  refine ⟨distinct, by decide +kernel, fun failure member => ?_⟩
  obtain ⟨source, input, name, same, unnamed, -⟩ := (outside.1 rfl failure).mp member
  exact ⟨source, input, name, same, unnamed⟩

/-- The file of an input has a second name here: as an input it is `a`, and the import of `lib.a`
leads to it. The import is recorded as leading outside the inputs, and a build that follows
imports holds the file twice. -/
theorem imports_input_as_outside :
    twiceSources = [⟨⟨"/main.py"⟩, "main", ⟨"/"⟩⟩, ⟨⟨"/lib/a.py"⟩, "a", ⟨"/lib"⟩⟩] ∧
      (ImportSearch.ofRoots (twiceSources.map (·.base))).moduleOf? twiceDisk "lib.a" =
        some ("lib.a", ⟨"/lib/a.py"⟩, ⟨"/"⟩) ∧
      (visitUsing twiceDisk (twiceOptions .error) none twiceSources).failures.map (·.text) =
        ["main: Analysis failed in /main.py: imports 'lib.a', which is outside the input set"] ∧
      ((Build.run .standard (twiceOptions .normal) [⟨"main.py"⟩, ⟨"lib/a.py"⟩]).run
          twiceDisk).1.toOption.map
        (fun result => result.modules.values.map fun module => (module.name, module.path.text)) =
          some [("a", "/lib/a.py"), ("lib.a", "/lib/a.py"), ("main", "/main.py")] := by
  decide +kernel

end Declarations.Analysis
