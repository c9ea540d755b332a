/-
This file says what the order of inputs decides. Where no two collected files have one
module name and all are imported from one base, a name leads to the same file in every
order, so what imports lead to is the same closed set and only the order of visits
differs. Neither the modules nor the cache depend on that order, and the fingerprint of
the inputs is made from a sorted list.
-/

import Declarations.Proofs.Build.Accounting
import Declarations.Proofs.Disk.Rewriting

namespace Declarations

/-! ### Collecting -/

namespace BuildSource

variable {disk : Disk} {exclude : List String} {patterns : List GlobPattern}
  {inputs others : List Path} {sources more : List BuildSource}

theorem expand_perm (permuted : inputs.Perm others) :
    (expand disk patterns inputs).1.Perm (expand disk patterns others).1 :=
  (permuted.map _).flatMap_right _

theorem missingFrom_perm (permuted : inputs.Perm others) :
    (missingFrom disk inputs).Perm (missingFrom disk others) :=
  (permuted.filter _).map _

/-- Whether the module name of a source decides which of some sources it is. -/
def AreApart (sources : List BuildSource) : Prop :=
  ∀ first ∈ sources, ∀ second ∈ sources, first.module = second.module → first = second

/-- Every name keeps a source. -/
theorem exists_mem_firstOfEach {seen : List String} {source : BuildSource}
    (member : source ∈ sources) (unseen : source.module ∉ seen) :
    ∃ kept ∈ firstOfEach seen sources, kept.module = source.module := by
  induction sources generalizing seen with
  | nil => cases member
  | cons first rest inductionHypothesis =>
    unfold firstOfEach
    split
    next known =>
      refine inductionHypothesis ((List.mem_cons.mp member).resolve_left ?_) unseen
      rintro rfl
      exact unseen known
    next =>
      by_cases same : source.module = first.module
      · exact ⟨first, List.mem_cons_self, same.symm⟩
      · have later := (List.mem_cons.mp member).resolve_left fun isFirst => same (isFirst ▸ rfl)
        have stillUnseen : source.module ∉ first.module :: seen := by
          rw [List.mem_cons, not_or]
          exact ⟨same, unseen⟩
        obtain ⟨kept, among, named⟩ := inductionHypothesis later stillUnseen
        exact ⟨kept, List.mem_cons_of_mem _ among, named⟩

/-- Where names tell sources apart, every source is kept. -/
theorem mem_firstOfEach_iff (apart : AreApart sources) {source : BuildSource} :
    source ∈ firstOfEach [] sources ↔ source ∈ sources := by
  have subset {source : BuildSource} (kept : source ∈ firstOfEach [] sources) :
      source ∈ sources := by
    obtain ⟨-, before, after, rfl, -⟩ := of_mem_firstOfEach kept
    simp
  refine ⟨subset, fun member => ?_⟩
  obtain ⟨kept, among, named⟩ := exists_mem_firstOfEach member List.not_mem_nil
  rwa [← apart kept (subset among) source member named]

theorem firstOfEach_perm (permuted : sources.Perm more) (apart : AreApart sources) :
    (firstOfEach [] sources).Perm (firstOfEach [] more) := by
  have otherApart : AreApart more := fun first inFirst second inSecond =>
    apart first (permuted.mem_iff.mpr inFirst) second (permuted.mem_iff.mpr inSecond)
  refine (List.perm_ext_iff_of_nodup (nodup_firstOfEach [] sources).1.of_map
    (nodup_firstOfEach [] more).1.of_map).mpr fun source => ?_
  rw [mem_firstOfEach_iff apart, mem_firstOfEach_iff otherApart, permuted.mem_iff]

/-- Whether no two different files that inputs stand for have one module name, and all are imported
from one base. -/
def IsUnambiguous (disk : Disk) (exclude : List String) (inputs : List Path) : Prop :=
  ∀ patterns, exclude.mapM GlobPattern.parse = .ok patterns →
    ∀ first ∈ (expand disk patterns inputs).1.map (ofPath disk),
      ∀ second ∈ (expand disk patterns inputs).1.map (ofPath disk),
        (first.module = second.module → first.path = second.path) ∧ first.base = second.base

/-- Whether two lists hold the same sources, each under a name of its own, and a search from their
bases is the same. -/
structure Reordered (sources more : List BuildSource) : Prop where
  permuted : sources.Perm more
  distinct : (sources.map (·.module)).Nodup
  bases : sources.map (·.base) = more.map (·.base)

theorem Reordered.symm (reordered : Reordered sources more) : Reordered more sources where
  permuted := reordered.permuted.symm
  distinct := (reordered.permuted.map _).nodup_iff.mp reordered.distinct
  bases := reordered.bases.symm

/-- Lists that hold one value only are the same in every order. -/
theorem eq_of_perm_of_all_eq {α : Type} {first second : List α} (permuted : first.Perm second)
    (same : ∀ value ∈ first, ∀ other ∈ first, value = other) : first = second := by
  cases first with
  | nil => exact (List.nil_perm.mp permuted).symm
  | cons value rest =>
    have repeated : value :: rest = List.replicate (rest.length + 1) value :=
      List.eq_replicate_iff.mpr
        ⟨rfl, fun other member => same other member value List.mem_cons_self⟩
    rw [repeated] at permuted ⊢
    exact (List.perm_replicate.mp permuted.symm).symm

/-- Collecting inputs in another order gives the same sources and misses the same inputs. -/
theorem collect_perm (permuted : inputs.Perm others)
    (unambiguous : IsUnambiguous disk exclude inputs) :
    (∃ problem, collect disk exclude inputs = .error problem ∧
        collect disk exclude others = .error problem) ∨
      ∃ sources more, Reordered sources more ∧
        collect disk exclude inputs = .ok (sources, missingFrom disk inputs) ∧
        collect disk exclude others = .ok (more, missingFrom disk others) := by
  cases parsed : exclude.mapM GlobPattern.parse with
  | error error =>
    refine .inl ⟨.pattern error, ?_, ?_⟩
    · unfold collect
      rw [parsed]
    · unfold collect
      rw [parsed]
  | ok patterns =>
    have files : ((expand disk patterns inputs).1.map (ofPath disk)).Perm
        ((expand disk patterns others).1.map (ofPath disk)) := (expand_perm permuted).map _
    have clear := unambiguous patterns parsed
    have apart : AreApart ((expand disk patterns inputs).1.map (ofPath disk)) := by
      intro first inFirst second inSecond named
      have samePath := (clear first inFirst second inSecond).1 named
      obtain ⟨path, -, rfl⟩ := List.mem_map.mp inFirst
      obtain ⟨other, -, rfl⟩ := List.mem_map.mp inSecond
      have located : disk.absolute path = disk.absolute other := samePath
      unfold ofPath
      rw [located]
    have kept := firstOfEach_perm files apart
    refine .inr ⟨_, _, ⟨kept, (nodup_firstOfEach [] _).1, ?_⟩,
      collect_eq_ok_iff.mpr ⟨patterns, parsed, rfl, (expand_missing inputs).symm⟩,
      collect_eq_ok_iff.mpr ⟨patterns, parsed, rfl, (expand_missing others).symm⟩⟩
    refine eq_of_perm_of_all_eq (kept.map _) fun base inBase other inOther => ?_
    obtain ⟨first, inFirst, rfl⟩ := List.mem_map.mp inBase
    obtain ⟨second, inSecond, rfl⟩ := List.mem_map.mp inOther
    exact (clear first ((mem_firstOfEach_iff apart).mp inFirst) second
      ((mem_firstOfEach_iff apart).mp inSecond)).2

end BuildSource

/-! ### Fingerprints -/

namespace Fingerprint

theorem precedes_iff {first second : String × String} :
    precedes first second = true ↔
      first.1 < second.1 ∨ (first.1 = second.1 ∧ first.2 ≤ second.2) := by
  simp [precedes]

theorem precedes_total (first second : String × String) :
    (precedes first second || precedes second first) = true := by
  rw [Bool.or_eq_true, precedes_iff, precedes_iff]
  rcases Std.lt_trichotomy first.1 second.1 with below | same | above
  · exact .inl (.inl below)
  · rcases String.le_total first.2 second.2 with before | after
    · exact .inl (.inr ⟨same, before⟩)
    · exact .inr (.inr ⟨same.symm, after⟩)
  · exact .inr (.inl above)

theorem precedes_trans (first second third : String × String)
    (before : precedes first second = true) (after : precedes second third = true) :
    precedes first third = true := by
  rw [precedes_iff] at before after ⊢
  rcases before with below | ⟨same, before⟩
  · rcases after with above | ⟨also, -⟩
    · exact .inl (String.lt_trans below above)
    · exact .inl (also ▸ below)
  · rcases after with above | ⟨also, after⟩
    · exact .inl (same ▸ above)
    · exact .inr ⟨same.trans also, String.le_trans before after⟩

theorem eq_of_precedes {first second : String × String} (before : precedes first second = true)
    (after : precedes second first = true) : first = second := by
  rw [precedes_iff] at before after
  rcases before with below | ⟨same, before⟩
  · rcases after with above | ⟨also, -⟩
    · exact absurd (String.lt_trans below above) (String.lt_irrefl _)
    · exact absurd (also ▸ below) (String.lt_irrefl _)
  · rcases after with above | ⟨-, after⟩
    · exact absurd (same ▸ above) (String.lt_irrefl _)
    · exact Prod.ext same (String.le_antisymm before after)

/-- The listing of inputs does not depend on their order. -/
theorem listing_perm {inputs others : List (String × String)} (permuted : inputs.Perm others) :
    listing inputs = listing others := by
  have sorted : inputs.mergeSort precedes = others.mergeSort precedes :=
    List.Perm.eq_of_pairwise (fun _ _ _ _ before after => eq_of_precedes before after)
      (List.pairwise_mergeSort precedes_trans precedes_total inputs)
      (List.pairwise_mergeSort precedes_trans precedes_total others)
      ((List.mergeSort_perm _ _).trans (permuted.trans (List.mergeSort_perm _ _).symm))
  unfold listing
  rw [sorted]

theorem ofInputs_perm {inputs others : List (String × String)} (permuted : inputs.Perm others) :
    ofInputs inputs = ofInputs others :=
  congrArg Sha256.hex (listing_perm permuted)

end Fingerprint

namespace Analysis

open BuildSource (Reordered)

variable {disk : Disk} {options : BuildOptions} {usable : Option Cache} {search : ImportSearch}
  {read : BuildSource → Except Problem Reading} {sources more : List BuildSource}

theorem inputsFingerprint_perm {options : LoweringOptions} (permuted : sources.Perm more) :
    inputsFingerprint disk options sources = inputsFingerprint disk options more :=
  Fingerprint.ofInputs_perm (permuted.filterMap _)

/-! ### Visits -/

/-- A name leads to the same file. -/
theorem sourceOf?_perm (reordered : Reordered sources more) (name : String) :
    sourceOf? search disk sources name = sourceOf? search disk more name := by
  have found : (sources.find? fun source => source.module == name) =
      more.find? fun source => source.module == name := by
    by_cases named : ∃ source ∈ sources, source.module = name
    · obtain ⟨source, member, rfl⟩ := named
      rw [find?_of_mem reordered.distinct member,
        find?_of_mem reordered.symm.distinct (reordered.permuted.mem_iff.mp member)]
    · have none {among : List BuildSource} (inside : ∀ source ∈ among, source ∈ sources) :
          (among.find? fun source => source.module == name) = none :=
        List.find?_eq_none.mpr fun source member same =>
          named ⟨source, inside source member, eq_of_beq same⟩
      rw [none fun _ => id, none fun _ => reordered.permuted.mem_iff.mpr]
  unfold sourceOf?
  rw [found]

theorem isClosed_perm (reordered : Reordered sources more) {names : Set String} :
    IsClosed search disk read sources names ↔ IsClosed search disk read more names := by
  unfold IsClosed LeadsTo
  simp only [sourceOf?_perm reordered, reordered.permuted.mem_iff]

/-- The inputs are visited, and behind them sources that their names stand for. -/
theorem exists_followed (disk : Disk) (options : BuildOptions) (usable : Option Cache)
    (distinct : (sources.map (·.module)).Nodup) :
    ∃ followed,
      (visitUsing disk options usable sources).visits =
        visitsOf (Analysis.read disk options usable) false sources ++
          visitsOf (Analysis.read disk options usable) true followed ∧
      visited (visitUsing disk options usable sources) =
        sources.map (·.module) ++ followed.map (·.module) ∧
      followed = (followed.map (·.module)).filterMap
        (sourceOf? (ImportSearch.ofRoots (sources.map (·.base))) disk sources) := by
  have valid := valid_visitUsing disk options usable distinct
  obtain ⟨followed, same⟩ : ∃ followed, (visitUsing disk options usable sources).visits = _ :=
    visits_visitAll disk options.followImports (Analysis.read disk options usable) sources
  have found : ∀ source ∈ followed,
      sourceOf? (ImportSearch.ofRoots (sources.map (·.base))) disk sources source.module =
        some source := by
    intro source member
    refine valid.files source (List.mem_append_left _ ?_)
    rw [same, List.map_append, List.mem_append]
    exact .inr (List.mem_map.mpr ⟨_, List.mem_map_of_mem member, rfl⟩)
  refine ⟨followed, same, ?_, ?_⟩
  · rw [visited, same, visitsOf, visitsOf, List.map_append, List.map_map, List.map_map]
    rfl
  · rw [List.filterMap_map]
    exact List.filterMap_some.symm.trans (List.filterMap_congr found).symm

/-- The same names are visited, since they are the least closed set in every order. -/
theorem visited_perm (follows : options.followImports.follows = true)
    (reordered : Reordered sources more) :
    (visited (visitUsing disk options usable sources)).Perm
      (visited (visitUsing disk options usable more)) := by
  have first := (valid_visitUsing disk options usable reordered.distinct).isLeast
    (queue_visitUsing disk options usable reordered.distinct) follows
  have second := (valid_visitUsing disk options usable reordered.symm.distinct).isLeast
    (queue_visitUsing disk options usable reordered.symm.distinct) follows
  simp only [reordered.bases, isClosed_perm reordered] at first
  refine (List.perm_ext_iff_of_nodup (nodup_visited disk options usable reordered.distinct)
    (nodup_visited disk options usable reordered.symm.distinct)).mpr fun name => ?_
  exact Set.ext_iff.mp (first.unique second) name

/-- Sources in another order lead to the same visits, in another order. -/
theorem visits_perm (follows : options.followImports.follows = true)
    (reordered : Reordered sources more) :
    (visitUsing disk options usable sources).visits.Perm
      (visitUsing disk options usable more).visits := by
  obtain ⟨followed, visits, names, files⟩ :=
    exists_followed disk options usable reordered.distinct
  obtain ⟨otherFollowed, otherVisits, otherNames, otherFiles⟩ :=
    exists_followed disk options usable reordered.symm.distinct
  have behind : (followed.map (·.module)).Perm (otherFollowed.map (·.module)) := by
    have whole : (visited (visitUsing disk options usable sources)).Perm
        (visited (visitUsing disk options usable more)) := visited_perm follows reordered
    rw [names, otherNames] at whole
    exact (List.perm_append_left_iff _).mp
      (whole.trans ((reordered.permuted.map _).symm.append_right _))
  have sameFiles : followed.Perm otherFollowed := by
    rw [files, otherFiles, reordered.bases, funext (sourceOf?_perm reordered)]
    exact behind.filterMap _
  rw [visits, otherVisits]
  exact (reordered.permuted.map _).append (sameFiles.map _)

/-! ### Results -/

/-- The names of the modules that were taken from the cache. -/
def served (progress : Progress) : List String :=
  ((readings progress).filter fun reading => !reading.isFresh).map (·.module.name)

/-- What becomes of visits, apart from failures, depends on what was read. -/
theorem foldl_addVisit {policy : FollowImports} (visits : List Visit) (analysis : Analysis) :
    (visits.foldl (addVisit policy) analysis).modules =
        ((visits.filterMap (·.outcome.toOption)).map (·.module)).foldl ModuleSet.add
          analysis.modules ∧
      (visits.foldl (addVisit policy) analysis).cached = analysis.cached +
        ((visits.filterMap (·.outcome.toOption)).filter fun reading => !reading.isFresh).length := by
  induction visits generalizing analysis with
  | nil => exact ⟨rfl, rfl⟩
  | cons visit rest inductionHypothesis =>
    obtain ⟨modules, cached⟩ := inductionHypothesis (addVisit policy analysis visit)
    rw [List.foldl_cons, modules, cached]
    obtain ⟨source, isFollowed, outcome⟩ := visit
    cases outcome with
    | error problem =>
      unfold addVisit
      dsimp only
      split <;> exact ⟨rfl, rfl⟩
    | ok reading =>
      obtain ⟨module, fingerprint, isFresh⟩ := reading
      cases isFresh with
      | true => exact ⟨rfl, rfl⟩
      | false => exact ⟨rfl, Nat.add_right_comm _ _ _⟩

theorem modules_ofProgress {policy : FollowImports} (progress : Progress) :
    (ofProgress policy progress).modules =
      ModuleSet.ofModules ((readings progress).map (·.module)) :=
  (foldl_addVisit progress.visits _).1

theorem cached_ofProgress {policy : FollowImports} (progress : Progress) :
    (ofProgress policy progress).cached = (served progress).length := by
  have counted : (ofProgress policy progress).cached = 0 + _ :=
    (foldl_addVisit progress.visits _).2
  rw [counted, served, List.length_map, Nat.zero_add]
  rfl

/-- What was read has the name of its source, and no name was read twice. -/
theorem readings_apart (distinct : (sources.map (·.module)).Nodup) :
    ∀ first ∈ readings (visitUsing disk options usable sources),
      ∀ second ∈ readings (visitUsing disk options usable sources),
        first.module.name = second.module.name → first = second := by
  have once := nodup_visited disk options usable distinct
  have faithful : (visitUsing disk options usable sources).Faithful
      (Analysis.read disk options usable) := faithful_visitAll sources
  have origin {reading : Reading} (member : reading ∈ readings
      (visitUsing disk options usable sources)) :
      ∃ visit ∈ (visitUsing disk options usable sources).visits,
        visit.outcome = .ok reading ∧ reading.module.name = visit.source.module := by
    obtain ⟨visit, visited, kept⟩ := List.mem_filterMap.mp member
    cases outcome : visit.outcome with
    | error problem =>
      rw [outcome] at kept
      cases kept
    | ok other =>
      rw [outcome] at kept
      cases kept
      exact ⟨visit, visited, outcome, name_of_read ((faithful visit visited).symm.trans outcome)⟩
  intro first inFirst second inSecond named
  obtain ⟨visit, among, outcome, name⟩ := origin inFirst
  obtain ⟨other, alsoAmong, otherOutcome, otherName⟩ := origin inSecond
  have same : visit = other := List.inj_on_of_nodup_map once among alsoAmong
    (name.symm.trans (named.trans otherName))
  rw [same, otherOutcome] at outcome
  exact (Except.ok.inj outcome).symm

/-- Whether two results are the same, except that failures may come in another order. -/
structure Agrees (first second : Analysis) : Prop where
  modules : first.modules = second.modules
  failures : first.failures.Perm second.failures
  cached : first.cached = second.cached

theorem readings_perm (follows : options.followImports.follows = true)
    (reordered : Reordered sources more) :
    (readings (visitUsing disk options usable sources)).Perm
      (readings (visitUsing disk options usable more)) :=
  (visits_perm follows reordered).filterMap _

theorem served_perm (follows : options.followImports.follows = true)
    (reordered : Reordered sources more) :
    (served (visitUsing disk options usable sources)).Perm
      (served (visitUsing disk options usable more)) :=
  ((readings_perm follows reordered).filter _).map _

/-- Where imports are followed, sources in another order give the same modules. -/
theorem ofProgress_perm (follows : options.followImports.follows = true)
    (reordered : Reordered sources more) :
    Agrees (ofProgress options.followImports (visitUsing disk options usable sources))
      (ofProgress options.followImports (visitUsing disk options usable more)) where
  modules := by
    rw [modules_ofProgress, modules_ofProgress]
    refine ModuleSet.ofModules_perm ((readings_perm follows reordered).map _) ?_
    intro first inFirst second inSecond named
    obtain ⟨reading, member, rfl⟩ := List.mem_map.mp inFirst
    obtain ⟨other, otherMember, rfl⟩ := List.mem_map.mp inSecond
    rw [readings_apart reordered.distinct reading member other otherMember named]
  failures := by
    have unrecorded (sources : List BuildSource) :
        (visitUsing disk options usable sources).failures = [] := by
      refine (failures_visitAll sources).trans (List.flatMap_eq_nil_iff.mpr fun visit _ => ?_)
      refine if_neg fun isError => ?_
      rw [isError] at follows
      cases follows
    rw [failures_ofProgress, failures_ofProgress, unrecorded, unrecorded]
    exact (visits_perm follows reordered).flatMap_right _
  cached := by
    rw [cached_ofProgress, cached_ofProgress, (served_perm follows reordered).length_eq]

/-! ### The cache -/

/-- The file that is written for a module that was read. -/
def entryFile (cache : Cache) (reading : Reading) : Path × FileContent :=
  (cache.entryPath reading.module.name,
    .text (cache.entryText reading.module reading.fingerprint))

theorem store_eq (cache : Cache) (progress : Progress) :
    store cache progress disk =
      (((readings progress).filter (·.isFresh)).map (entryFile cache)).foldl Disk.overwrite
        disk := by
  rw [List.foldl_map]
  rfl

/-- What a build stores stands at the same places. -/
theorem alike_store (follows : options.followImports.follows = true)
    (reordered : Reordered sources more) (cache : Cache) :
    (store cache (visitUsing disk options usable sources) disk).Alike
      (store cache (visitUsing disk options usable more) disk) := by
  rw [store_eq, store_eq]
  exact Disk.alike_foldl_overwrite (((readings_perm follows reordered).filter _).map _)

end Analysis

end Declarations
