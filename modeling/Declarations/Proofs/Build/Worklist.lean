/-
This file proves that reading sources computes a closure. It takes files one at a time from
those that are still to be read, in any order, which the rounds of a build are one way to
do; each step keeps that what is asked for was read or is still to be read, that it lies in
every set which is closed under imports, and that its names are ones that can come up. Of
those there are finitely many, so in every order all are read in the end, and what is read
then is the least closed set.
-/

import Declarations.Proofs.Build.Finding
import Declarations.Proofs.NameMap
import Mathlib.Data.Fintype.BigOperators
import Mathlib.Logic.Relation
import Mathlib.Order.Bounds.Basic

namespace Declarations.Analysis

variable {search : ImportSearch} {disk : Disk} {policy : FollowImports}
  {read : BuildSource → Except Problem Reading} {sources : List BuildSource}

/-! ### Imported modules -/

/-- Puts a module that was found into a map, unless it was seen. -/
def gather (seen : List String) (map : NameMap BuildSource) (found : String × Path × Path) :
    NameMap BuildSource :=
  if found.1 ∈ seen then map else map.insert found.1 ⟨found.2.1, found.1, found.2.2⟩

theorem get?_gather_cases {seen : List String} {map : NameMap BuildSource}
    {found : String × Path × Path} {name : String} {source : BuildSource}
    (there : (gather seen map found).get? name = some source) :
    map.get? name = some source ∨
      (name ∉ seen ∧ found = (name, source.path, source.base) ∧ source.module = name) := by
  unfold gather at there
  split at there
  · exact .inl there
  next unseen =>
    by_cases same : name = found.1
    · subst same
      rw [NameMap.get?_insert_self] at there
      cases there
      exact .inr ⟨unseen, rfl, rfl⟩
    · rw [NameMap.get?_insert_other _ _ same] at there
      exact .inl there

/-- What is gathered are modules that were found and not seen. -/
theorem get?_foldl_gather_cases {seen : List String} {name : String} {source : BuildSource} :
    ∀ {found : List (String × Path × Path)} {map : NameMap BuildSource},
      (found.foldl (gather seen) map).get? name = some source →
        map.get? name = some source ∨
          (name ∉ seen ∧ (name, source.path, source.base) ∈ found ∧ source.module = name)
  | [], _, there => .inl there
  | first :: rest, map, there => by
    rw [List.foldl_cons] at there
    rcases get?_foldl_gather_cases there with before | ⟨unseen, member, named⟩
    · rcases get?_gather_cases before with earlier | ⟨unseen, same, named⟩
      · exact .inl earlier
      · exact .inr ⟨unseen, same ▸ List.mem_cons_self, named⟩
    · exact .inr ⟨unseen, List.mem_cons_of_mem _ member, named⟩

theorem contains_gather {seen : List String} {map : NameMap BuildSource}
    (found : String × Path × Path) {name : String} (there : map.contains name = true) :
    (gather seen map found).contains name = true := by
  unfold gather
  split
  · exact there
  · by_cases same : name = found.1
    · rw [same, NameMap.contains, NameMap.get?_insert_self]
      rfl
    · rwa [NameMap.contains, NameMap.get?_insert_other _ _ same]

/-- All modules are gathered that were found and not seen. -/
theorem contains_foldl_gather {seen : List String} {name : String} (unseen : name ∉ seen) :
    ∀ {found : List (String × Path × Path)} {map : NameMap BuildSource},
      map.contains name = true ∨ (∃ place, (name, place) ∈ found) →
        (found.foldl (gather seen) map).contains name = true
  | [], _, .inl there => there
  | first :: rest, map, known => by
    rw [List.foldl_cons]
    refine contains_foldl_gather unseen ?_
    rcases known with there | ⟨place, member⟩
    · exact .inl (contains_gather first there)
    · rcases List.mem_cons.mp member with rfl | later
      · left
        rw [gather, if_neg unseen, NameMap.contains, NameMap.get?_insert_self]
        rfl
      · exact .inr ⟨place, later⟩

theorem importedModules_eq (seen : List String) (module : Module) :
    importedModules search disk seen module =
      ((module.imports.filterMap fun symbol => search.moduleOf? disk symbol.target.key).foldl
        (gather seen) NameMap.empty).values :=
  rfl

/-- What imports lead to are the modules that their keys name and that were not seen. -/
theorem mem_importedModules {seen : List String} {module : Module} {source : BuildSource} :
    source ∈ importedModules search disk seen module ↔
      source.module ∉ seen ∧ ∃ symbol ∈ module.imports,
        search.moduleOf? disk symbol.target.key =
          some (source.module, source.path, source.base) := by
  rw [importedModules_eq]
  constructor
  · intro member
    obtain ⟨⟨name, _⟩, entry, rfl⟩ := List.mem_map.mp member
    rcases get?_foldl_gather_cases (NameMap.mem_entries_iff.mp entry) with
      none | ⟨unseen, found, rfl⟩
    · cases none
    · obtain ⟨symbol, imported, same⟩ := List.mem_filterMap.mp found
      exact ⟨unseen, symbol, imported, same⟩
  · rintro ⟨unseen, symbol, imported, same⟩
    have found : (source.module, source.path, source.base) ∈
        module.imports.filterMap fun symbol => search.moduleOf? disk symbol.target.key :=
      List.mem_filterMap.mpr ⟨symbol, imported, same⟩
    have contained : (List.foldl (gather seen) NameMap.empty _).contains source.module = true :=
      contains_foldl_gather unseen (.inr ⟨_, found⟩)
    obtain ⟨other, there⟩ := Option.isSome_iff_exists.mp contained
    -- The name decides the file, so what was gathered under it is this source.
    rcases get?_foldl_gather_cases there with none | ⟨_, foundOther, named⟩
    · cases none
    · obtain ⟨otherSymbol, _, sameOther⟩ := List.mem_filterMap.mp foundOther
      have here := (ImportSearch.moduleOf?_cases same).2
      have again := (ImportSearch.moduleOf?_cases sameOther).2
      rw [here] at again
      obtain ⟨path, base⟩ := Prod.mk.inj (Option.some.inj again)
      have equal : other = source := by
        cases other
        cases source
        simp_all
      rw [equal] at there
      exact List.mem_map.mpr ⟨_, NameMap.mem_entries_iff.mpr there, rfl⟩

theorem nodup_importedModules (seen : List String) (module : Module) :
    ((importedModules search disk seen module).map (·.module)).Nodup := by
  rw [importedModules_eq]
  generalize gathered : (module.imports.filterMap fun symbol =>
    search.moduleOf? disk symbol.target.key).foldl (gather seen) NameMap.empty = map
  have named : map.values.map (·.module) = map.names := by
    rw [NameMap.values, NameMap.names, List.map_map]
    refine List.map_congr_left fun entry member => ?_
    have there := NameMap.mem_entries_iff.mp member
    rw [← gathered] at there
    rcases get?_foldl_gather_cases there with none | ⟨_, _, same⟩
    · cases none
    · exact same
  rw [named]
  refine List.pairwise_map.mpr (map.ascending.imp fun below same => ?_)
  rw [same] at below
  exact String.lt_irrefl _ below

/-- The sources that a visit leads to, apart from modules that were seen. -/
def ledTo (search : ImportSearch) (disk : Disk) (seen : List String) (visit : Visit) :
    List BuildSource :=
  match visit.outcome with
  | .error _ => []
  | .ok reading => importedModules search disk seen reading.module

theorem mem_ledTo {seen : List String} {visit : Visit} {source : BuildSource} :
    source ∈ ledTo search disk seen visit ↔
      source.module ∉ seen ∧ ∃ reading, visit.outcome = .ok reading ∧
        ∃ symbol ∈ reading.module.imports, search.moduleOf? disk symbol.target.key =
          some (source.module, source.path, source.base) := by
  unfold ledTo
  cases visit.outcome with
  | error problem => simp
  | ok reading => simp [mem_importedModules]

theorem nodup_ledTo (seen : List String) (visit : Visit) :
    ((ledTo search disk seen visit).map (·.module)).Nodup := by
  unfold ledTo
  split
  · exact List.nodup_nil
  · exact nodup_importedModules _ _

/-! ### Steps in any order -/

/-- Takes a visit and the sources that it leads to into account. -/
def note (policy : FollowImports) (progress : Progress) (visit : Visit)
    (imported : List BuildSource) : Progress :=
  let progress := { progress with visits := progress.visits ++ [visit] }
  match policy with
  | .normal | .silent =>
    { progress with
      seen := progress.seen ++ imported.map (·.module)
      queue := progress.queue ++ imported }
  | .error =>
    { progress with
      failures := progress.failures ++ imported.map fun found =>
        { module := some visit.source.module
          path := some visit.source.path
          problem := .analysis visit.source.path (.outsideImport found.module) } }
  | .skip => progress

/-- The sources among those that a visit leads to that are read later. -/
def added (policy : FollowImports) (imported : List BuildSource) : List BuildSource :=
  if policy.follows then imported else []

theorem added_sublist (policy : FollowImports) (imported : List BuildSource) :
    (added policy imported).Sublist imported := by
  unfold added
  split
  · exact List.Sublist.refl _
  · exact List.nil_sublist _

theorem seen_note (progress : Progress) (visit : Visit) (imported : List BuildSource) :
    (note policy progress visit imported).seen =
      progress.seen ++ (added policy imported).map (·.module) := by
  cases policy <;> simp [note, added, FollowImports.follows]

theorem queue_note (progress : Progress) (visit : Visit) (imported : List BuildSource) :
    (note policy progress visit imported).queue = progress.queue ++ added policy imported := by
  cases policy <;> simp [note, added, FollowImports.follows]

theorem visits_note (progress : Progress) (visit : Visit) (imported : List BuildSource) :
    (note policy progress visit imported).visits = progress.visits ++ [visit] := by
  cases policy <;> rfl

/-- Sources that are still to be read stay so. -/
theorem note_append_queue (rest : List BuildSource) (progress : Progress) (visit : Visit)
    (imported : List BuildSource) :
    note policy { progress with queue := rest ++ progress.queue } visit imported =
      { note policy progress visit imported with
        queue := rest ++ (note policy progress visit imported).queue } := by
  cases policy <;> simp [note]

theorem inspect_eq_note (progress : Progress) (visit : Visit) :
    inspect search disk policy progress visit =
      note policy progress visit (ledTo search disk progress.seen visit) := by
  unfold inspect note ledTo
  cases visit.outcome with
  | error problem =>
    cases policy <;> simp
  | ok reading => cases policy <;> rfl

/-- One step of reading: any source that is still to be read is visited, and the sources that it
leads to are taken in any order. -/
inductive Step (search : ImportSearch) (disk : Disk) (policy : FollowImports)
    (read : BuildSource → Except Problem Reading) : Progress → Progress → Prop where
  | visit {progress : Progress} {source : BuildSource} {rest imported : List BuildSource}
      (isFollowed : Bool) :
      progress.queue.Perm (source :: rest) →
      imported.Perm (ledTo search disk progress.seen ⟨source, isFollowed, read source⟩) →
      Step search disk policy read progress
        (note policy { progress with queue := rest } ⟨source, isFollowed, read source⟩ imported)

/-- Steps one after the other. -/
abbrev Steps (search : ImportSearch) (disk : Disk) (policy : FollowImports)
    (read : BuildSource → Except Problem Reading) : Progress → Progress → Prop :=
  Relation.ReflTransGen (Step search disk policy read)

/-- Where reading some sources starts. -/
def outset (sources : List BuildSource) : Progress :=
  ⟨sources.map (·.module), sources, [], []⟩

/-- Visiting sources that were taken off the queue is a sequence of steps. -/
theorem steps_foldl_inspect (isFollowed : Bool) (taken : List BuildSource) (progress : Progress) :
    Steps search disk policy read { progress with queue := taken ++ progress.queue }
      ((taken.map fun source => ⟨source, isFollowed, read source⟩).foldl
        (inspect search disk policy) progress) := by
  induction taken generalizing progress with
  | nil => exact .refl
  | cons source rest inductionHypothesis =>
    rw [List.map_cons, List.foldl_cons]
    have step : Step search disk policy read
        { progress with queue := source :: rest ++ progress.queue }
        (note policy { progress with queue := rest ++ progress.queue }
          ⟨source, isFollowed, read source⟩
          (ledTo search disk progress.seen ⟨source, isFollowed, read source⟩)) :=
      .visit isFollowed (List.Perm.refl _) (List.Perm.refl _)
    rw [note_append_queue rest progress, ← inspect_eq_note] at step
    exact .head step (inductionHypothesis _)

theorem steps_round (isFollowed : Bool) (progress : Progress) :
    Steps search disk policy read progress
      (round search disk policy read isFollowed progress) := by
  have steps : Steps search disk policy read
      { progress with queue := progress.queue ++ [] } _ :=
    steps_foldl_inspect isFollowed progress.queue { progress with queue := [] }
  rwa [List.append_nil] at steps

theorem steps_rounds (count : Nat) (progress : Progress) :
    Steps search disk policy read progress (rounds search disk policy read count progress) := by
  induction count generalizing progress with
  | zero => exact .refl
  | succ count inductionHypothesis =>
    unfold rounds
    split
    · exact .refl
    · exact (steps_round true progress).trans (inductionHypothesis _)

/-- The rounds of a build are steps. -/
theorem steps_visitAll (sources : List BuildSource) :
    Steps (ImportSearch.ofRoots (sources.map (·.base))) disk policy read (outset sources)
      (visitAll disk policy read sources) :=
  (steps_round false _).trans (steps_rounds _ _)

/-! ### Closed sets of names -/

/-- The file that a name stands for: the input of that name, or else the file that is found. -/
def sourceOf? (search : ImportSearch) (disk : Disk) (sources : List BuildSource) (name : String) :
    Option BuildSource :=
  (sources.find? fun source => source.module == name) <|>
    (search.find? disk name).map fun (path, root) => ⟨path, name, root⟩

/-- Whether the file of a module is read and imports something from another module. -/
def LeadsTo (search : ImportSearch) (disk : Disk) (read : BuildSource → Except Problem Reading)
    (sources : List BuildSource) (name other : String) : Prop :=
  ∃ source reading symbol place, sourceOf? search disk sources name = some source ∧
    read source = .ok reading ∧ symbol ∈ reading.module.imports ∧
      search.moduleOf? disk symbol.target.key = some (other, place)

/-- What a visit leads to stands for the file that is found, since it is no input. -/
theorem sourceOf?_of_mem_ledTo {seen : List String} {visit : Visit} {found : BuildSource}
    (inputs : ∀ source ∈ sources, source.module ∈ seen)
    (member : found ∈ ledTo search disk seen visit) :
    sourceOf? search disk sources found.module = some found := by
  obtain ⟨unseen, _, _, symbol, _, same⟩ := mem_ledTo.mp member
  have notInput : (sources.find? fun source => source.module == found.module) = none := by
    refine List.find?_eq_none.mpr fun input member isSame => unseen ?_
    rw [← eq_of_beq isSame]
    exact inputs input member
  rw [sourceOf?, notInput, (ImportSearch.moduleOf?_cases same).2]
  rfl

section

variable {seen : List String} {source : BuildSource}
  (isFile : sourceOf? search disk sources source.module = some source) (isFollowed : Bool)

include isFile

/-- A module leads to what its visit leads to, -/
theorem leadsTo_of_mem_ledTo {found : BuildSource}
    (member : found ∈ ledTo search disk seen ⟨source, isFollowed, read source⟩) :
    LeadsTo search disk read sources source.module found.module := by
  obtain ⟨_, reading, success, symbol, imports, same⟩ := mem_ledTo.mp member
  exact ⟨source, reading, symbol, _, isFile, success, imports, same⟩

/-- and to no other module than those and the ones that were seen. -/
theorem exists_mem_ledTo {other : String} (unseen : other ∉ seen)
    (leads : LeadsTo search disk read sources source.module other) :
    ∃ found ∈ ledTo search disk seen ⟨source, isFollowed, read source⟩, found.module = other := by
  obtain ⟨file, reading, symbol, place, isOther, success, imports, same⟩ := leads
  cases isFile.symm.trans isOther
  exact ⟨⟨place.1, other, place.2⟩,
    mem_ledTo.mpr ⟨unseen, reading, success, symbol, imports, same⟩, rfl⟩

end

/-- Whether a set of names holds the inputs and all modules that its members lead to. -/
def IsClosed (search : ImportSearch) (disk : Disk) (read : BuildSource → Except Problem Reading)
    (sources : List BuildSource) (names : Set String) : Prop :=
  (∀ source ∈ sources, source.module ∈ names) ∧
    ∀ name ∈ names, ∀ other, LeadsTo search disk read sources name other → other ∈ names

/-- The names of the modules that were visited. -/
def visited (progress : Progress) : List String :=
  progress.visits.map (·.source.module)

/-- What is kept while sources are read. -/
structure Valid (search : ImportSearch) (disk : Disk) (policy : FollowImports)
    (read : BuildSource → Except Problem Reading) (sources : List BuildSource)
    (progress : Progress) : Prop where
  distinct : progress.seen.Nodup
  /-- What was seen was visited or is still to be visited. -/
  known : (visited progress ++ progress.queue.map (·.module)).Perm progress.seen
  inputs : ∀ source ∈ sources, source.module ∈ progress.seen
  files : ∀ source ∈ progress.visits.map (·.source) ++ progress.queue,
    sourceOf? search disk sources source.module = some source
  /-- What was seen lies in every closed set. -/
  least : policy.follows = true → ∀ names, IsClosed search disk read sources names →
    ∀ name ∈ progress.seen, name ∈ names
  /-- What a visited module leads to was seen. -/
  edges : policy.follows = true → ∀ visit ∈ progress.visits, ∀ other,
    LeadsTo search disk read sources visit.source.module other → other ∈ progress.seen
  inputsOnly : policy.follows = false → progress.seen = sources.map (·.module)

/-- The input of a name is the only one. -/
theorem find?_of_mem (distinct : (sources.map (·.module)).Nodup) {source : BuildSource}
    (member : source ∈ sources) :
    (sources.find? fun other => other.module == source.module) = some source := by
  have there : (sources.find? fun other => other.module == source.module).isSome = true :=
    List.find?_isSome.mpr ⟨source, member, beq_self_eq_true _⟩
  obtain ⟨other, found⟩ := Option.isSome_iff_exists.mp there
  have same : other.module = source.module := by simpa using List.find?_some found
  rw [found, List.inj_on_of_nodup_map distinct (List.mem_of_find?_eq_some found) member same]

theorem valid_outset (distinct : (sources.map (·.module)).Nodup) :
    Valid search disk policy read sources (outset sources) where
  distinct := distinct
  known := List.Perm.refl _
  inputs _ member := List.mem_map_of_mem member
  files source member := by
    rw [sourceOf?, find?_of_mem distinct member]
    rfl
  least _ names closed name member := by
    obtain ⟨source, input, rfl⟩ := List.mem_map.mp member
    exact closed.1 source input
  edges _ _ member := nomatch member
  inputsOnly _ := rfl

theorem Valid.step {progress after : Progress}
    (valid : Valid search disk policy read sources progress)
    (step : Step search disk policy read progress after) :
    Valid search disk policy read sources after := by
  obtain @⟨source, rest, imported, isFollowed, queued, ordered⟩ := step
  have mem_added {found : BuildSource} (member : found ∈ added policy imported) :
      found ∈ ledTo search disk progress.seen ⟨source, isFollowed, read source⟩ :=
    ordered.subset ((added_sublist policy imported).subset member)
  have distinctAdded : ((added policy imported).map (·.module)).Nodup :=
    ((ordered.map _).nodup_iff.mpr (nodup_ledTo _ _)).sublist
      ((added_sublist policy imported).map _)
  have queuedSource : source ∈ progress.queue := queued.symm.subset List.mem_cons_self
  have sourceSeen : source.module ∈ progress.seen :=
    valid.known.subset (List.mem_append_right _ (List.mem_map_of_mem queuedSource))
  have sourceFile : sourceOf? search disk sources source.module = some source :=
    valid.files source (List.mem_append_right _ queuedSource)
  constructor
  case distinct =>
    rw [seen_note]
    refine List.nodup_append'.mpr ⟨valid.distinct, distinctAdded, fun name seen member => ?_⟩
    obtain ⟨found, isAdded, rfl⟩ := List.mem_map.mp member
    exact (mem_ledTo.mp (mem_added isAdded)).1 seen
  case known =>
    rw [visited, visits_note, queue_note, seen_note, List.map_append, List.map_append,
      ← List.append_assoc]
    refine List.Perm.append_right _ (List.Perm.trans ?_ valid.known)
    rw [List.append_assoc]
    exact (queued.symm.map (·.module)).append_left _
  case inputs =>
    intro input member
    rw [seen_note]
    exact List.mem_append_left _ (valid.inputs input member)
  case files =>
    intro file member
    rw [visits_note, queue_note, List.map_append, List.mem_append, List.mem_append,
      List.mem_append] at member
    rcases member with (visitedBefore | now) | queuedBefore | isAdded
    · exact valid.files file (List.mem_append_left _ visitedBefore)
    · rw [List.mem_singleton.mp now]
      exact sourceFile
    · exact valid.files file
        (List.mem_append_right _ (queued.symm.subset (List.mem_cons_of_mem _ queuedBefore)))
    · exact sourceOf?_of_mem_ledTo valid.inputs (mem_added isAdded)
  case least =>
    intro follows names closed name member
    rw [seen_note, List.mem_append] at member
    rcases member with before | now
    · exact valid.least follows names closed name before
    · obtain ⟨found, isAdded, rfl⟩ := List.mem_map.mp now
      exact closed.2 source.module (valid.least follows names closed _ sourceSeen) _
        (leadsTo_of_mem_ledTo sourceFile isFollowed (mem_added isAdded))
  case edges =>
    intro follows visit member other leads
    rw [visits_note, List.mem_append, List.mem_singleton] at member
    rw [seen_note, List.mem_append]
    rcases member with before | rfl
    · exact .inl (valid.edges follows visit before other leads)
    · by_cases seen : other ∈ progress.seen
      · exact .inl seen
      · obtain ⟨found, member, named⟩ := exists_mem_ledTo sourceFile isFollowed seen leads
        refine .inr (List.mem_map.mpr ⟨found, ?_, named⟩)
        rw [added, if_pos follows]
        exact ordered.symm.subset member
  case inputsOnly =>
    intro ends
    rw [seen_note, added, ends]
    exact (List.append_nil _).trans (valid.inputsOnly ends)

/-- All steps keep what each step keeps. -/
theorem Valid.steps {progress after : Progress}
    (valid : Valid search disk policy read sources progress)
    (steps : Steps search disk policy read progress after) :
    Valid search disk policy read sources after := by
  induction steps with
  | refl => exact valid
  | tail _ step inductionHypothesis => exact inductionHypothesis.step step

/-! ### What is read in the end -/

/-- Where nothing is left to be read, the modules that were visited are those that were seen. -/
theorem Valid.visited_perm {progress : Progress}
    (valid : Valid search disk policy read sources progress) (done : progress.queue = []) :
    (visited progress).Perm progress.seen := by
  have known := valid.known
  rwa [done, List.map_nil, List.append_nil] at known

/-- Where imports are followed, these are the least closed set. -/
theorem Valid.isLeast {progress : Progress}
    (valid : Valid search disk policy read sources progress) (done : progress.queue = [])
    (follows : policy.follows = true) :
    IsLeast {names | IsClosed search disk read sources names}
      {name | name ∈ visited progress} := by
  have visitedSeen := valid.visited_perm done
  refine ⟨⟨fun source input => ?_, fun name member other leads => ?_⟩,
    fun names closed name member => ?_⟩
  · exact visitedSeen.symm.subset (valid.inputs source input)
  · obtain ⟨visit, among, rfl⟩ := List.mem_map.mp member
    exact visitedSeen.symm.subset (valid.edges follows visit among other leads)
  · exact valid.least follows names closed name (visitedSeen.subset member)

/-! ### The end of reading -/

theorem toNat_succ_lt (character : Char) : character.toNat + 1 < 2 ^ 21 := by
  have valid : character.toNat.isValidChar := character.valid
  unfold Nat.isValidChar at valid
  omega

/-- The characters of a text of limited length, each at its place. -/
def spelling (limit : Nat) (name : String) (place : Fin limit) : Fin (2 ^ 21) :=
  match name.toList[place.val]? with
  | some character => ⟨character.toNat + 1, toNat_succ_lt character⟩
  | none => 0

theorem spelling_inj {limit : Nat} {first second : String} (firstShort : first.length ≤ limit)
    (secondShort : second.length ≤ limit) (same : spelling limit first = spelling limit second) :
    first = second := by
  rw [← String.length_toList] at firstShort secondShort
  refine String.toList_injective (List.ext_getElem? fun place => ?_)
  by_cases within : place < limit
  · have here := congrFun same ⟨place, within⟩
    unfold spelling at here
    dsimp only at here
    cases atFirst : first.toList[place]? with
    | none =>
      cases atSecond : second.toList[place]? with
      | none => rfl
      | some other =>
        rw [atFirst, atSecond] at here
        exact absurd (congrArg Fin.val here).symm (Nat.succ_ne_zero _)
    | some character =>
      cases atSecond : second.toList[place]? with
      | none =>
        rw [atFirst, atSecond] at here
        exact absurd (congrArg Fin.val here) (Nat.succ_ne_zero _)
      | some other =>
        rw [atFirst, atSecond] at here
        have number : character.toNat = other.toNat := Nat.succ.inj (congrArg Fin.val here)
        rw [Char.toNat_inj.mp number]
  · rw [List.getElem?_eq_none (by omega), List.getElem?_eq_none (by omega)]

/-- There are not more names of limited length than ways to spell them. -/
theorem length_le_of_nodup {limit : Nat} {names : List String} (distinct : names.Nodup)
    (short : ∀ name ∈ names, name.length ≤ limit) : names.length ≤ (2 ^ 21) ^ limit := by
  have spelled : (names.map (spelling limit)).Nodup :=
    distinct.map_on fun first inFirst second inSecond same =>
      spelling_inj (short first inFirst) (short second inSecond) same
  have few := spelled.length_le_card
  rwa [List.length_map, Fintype.card_fun, Fintype.card_fin, Fintype.card_fin] at few

/-- Whether the modules that are read import keys that can come up. -/
def ReadsKeys (disk : Disk) (read : BuildSource → Except Problem Reading)
    (sources : List BuildSource) : Prop :=
  ∀ source reading, IsName disk sources source.module → read source = .ok reading →
    ImportBindings.AllKeys
      (IsChained (longest (sources.map (·.module) ++ storedKeys disk)) (longest disk.texts + 1))
      reading.module.imports

theorem isName_of_steps (keys : ReadsKeys disk read sources) {progress : Progress}
    (distinct : (sources.map (·.module)).Nodup)
    (steps : Steps search disk policy read (outset sources) progress) :
    ∀ name ∈ progress.seen, IsName disk sources name := by
  induction steps with
  | refl =>
    intro name member
    obtain ⟨source, input, rfl⟩ := List.mem_map.mp member
    exact isName_of_mem input
  | tail before step inductionHypothesis =>
    have valid := (valid_outset distinct).steps before
    obtain @⟨source, rest, imported, isFollowed, queued, ordered⟩ := step
    have sourceSeen := valid.known.subset (List.mem_append_right _
      (List.mem_map_of_mem (queued.symm.subset List.mem_cons_self)))
    intro name member
    rw [seen_note, List.mem_append] at member
    rcases member with earlier | now
    · exact inductionHypothesis name earlier
    · obtain ⟨found, isAdded, rfl⟩ := List.mem_map.mp now
      obtain ⟨_, reading, success, symbol, imports, same⟩ :=
        mem_ledTo.mp (ordered.subset ((added_sublist policy imported).subset isAdded))
      have chained := keys source reading (inductionHypothesis _ sourceSeen) success symbol imports
      exact chained.isShallow_of_moduleOf? same

/-- In no order are more files visited than the limit allows. -/
theorem length_visits_le (keys : ReadsKeys disk read sources) {progress : Progress}
    (distinct : (sources.map (·.module)).Nodup)
    (steps : Steps search disk policy read (outset sources) progress) :
    progress.visits.length + progress.queue.length ≤ roundLimit disk sources := by
  have valid := (valid_outset distinct).steps steps
  have seen : progress.seen.length ≤ roundLimit disk sources :=
    length_le_of_nodup valid.distinct fun name member =>
      (isName_of_steps keys distinct steps name member).length_le
  rw [← valid.known.length_eq, List.length_append, visited, List.length_map, List.length_map]
    at seen
  exact seen

/-- Rounds go on until no file is left, and each visits one at least. -/
theorem rounds_cases (count : Nat) (progress : Progress) :
    (rounds search disk policy read count progress).queue = [] ∨
      progress.visits.length + count ≤
        (rounds search disk policy read count progress).visits.length := by
  induction count generalizing progress with
  | zero => exact .inr (Nat.le_refl _)
  | succ count inductionHypothesis =>
    unfold rounds
    split
    next done => exact .inl (List.isEmpty_iff.mp done)
    next more =>
      have visits : progress.visits.length + 1 ≤
          (round search disk policy read true progress).visits.length := by
        have pending := List.length_pos_iff.mpr (mt List.isEmpty_iff.mpr more)
        rw [visits_round, List.length_append, List.length_map]
        omega
      refine (inductionHypothesis (round search disk policy read true progress)).imp_right ?_
      omega

/-- The rounds of a build end because no file is left. -/
theorem queue_visitAll (keys : ReadsKeys disk read sources)
    (distinct : (sources.map (·.module)).Nodup) :
    (visitAll disk policy read sources).queue = [] := by
  have steps : Steps (ImportSearch.ofRoots (sources.map (·.base))) disk policy read
      (outset sources) (visitAll disk policy read sources) := steps_visitAll sources
  have bound := length_visits_le keys distinct steps
  rcases rounds_cases (roundLimit disk sources) _ with done | many
  · exact done
  · refine List.length_eq_zero_iff.mp ?_
    have all := Nat.le_trans (Nat.le_add_left _ _) many
    unfold visitAll at bound ⊢
    dsimp only at bound ⊢
    omega

/-! ### The modules of a build -/

theorem readsKeys_read {options : BuildOptions} {usable : Option Cache} :
    ReadsKeys disk (Analysis.read disk options usable) sources :=
  fun _ _ isName success => allKeys_of_read success isName

theorem valid_visitUsing (disk : Disk) (options : BuildOptions) (usable : Option Cache)
    (distinct : (sources.map (·.module)).Nodup) :
    Valid (ImportSearch.ofRoots (sources.map (·.base))) disk options.followImports
      (Analysis.read disk options usable) sources (visitUsing disk options usable sources) :=
  (valid_outset distinct).steps (steps_visitAll sources)

/-- Reading sources with distinct names ends. -/
theorem queue_visitUsing (disk : Disk) (options : BuildOptions) (usable : Option Cache)
    (distinct : (sources.map (·.module)).Nodup) :
    (visitUsing disk options usable sources).queue = [] :=
  queue_visitAll readsKeys_read distinct

/-- No name is visited twice. -/
theorem nodup_visited (disk : Disk) (options : BuildOptions) (usable : Option Cache)
    (distinct : (sources.map (·.module)).Nodup) :
    (visited (visitUsing disk options usable sources)).Nodup := by
  have valid := valid_visitUsing disk options usable distinct
  exact (valid.visited_perm (queue_visitUsing disk options usable distinct)).nodup_iff.mpr
    valid.distinct

/-- Reading sources with distinct names ends, and visits no name twice. Where imports are followed,
the visited names are the least set that holds the inputs and all that its members lead to;
otherwise they are those of the inputs. Taking the files and their imports in any other order
ends as well, after a limited number of visits, and visits the same names. -/
theorem visitUsing_isLeast (disk : Disk) (options : BuildOptions) (usable : Option Cache)
    (sources : List BuildSource) (distinct : (sources.map (·.module)).Nodup) :
    let search := ImportSearch.ofRoots (sources.map (·.base))
    let read := Analysis.read disk options usable
    let final := visitUsing disk options usable sources
    final.queue = [] ∧ (visited final).Nodup ∧
      (options.followImports.follows = true →
        IsLeast {names | IsClosed search disk read sources names} {name | name ∈ visited final}) ∧
      (options.followImports.follows = false →
        (visited final).Perm (sources.map (·.module))) ∧
      ∀ ended, Steps search disk options.followImports read (outset sources) ended →
        ended.visits.length ≤ roundLimit disk sources ∧
          (ended.queue = [] → (visited ended).Perm (visited final)) := by
  intro search read final
  have steps : Steps search disk options.followImports read (outset sources) final :=
    steps_visitAll sources
  have valid := (valid_outset distinct).steps steps
  have done : final.queue = [] := queue_visitAll readsKeys_read distinct
  have visitedSeen := valid.visited_perm done
  refine ⟨done, visitedSeen.nodup_iff.mpr valid.distinct, valid.isLeast done, ?_, ?_⟩
  · intro ends
    exact valid.inputsOnly ends ▸ visitedSeen
  · intro ended otherSteps
    have other := (valid_outset distinct).steps otherSteps
    refine ⟨Nat.le_trans (Nat.le_add_right _ _)
        (length_visits_le readsKeys_read distinct otherSteps),
      fun otherDone => ?_⟩
    have otherSeen := other.visited_perm otherDone
    cases follows : options.followImports.follows with
    | false =>
      exact (other.inputsOnly follows ▸ otherSeen).trans
        (valid.inputsOnly follows ▸ visitedSeen).symm
    | true =>
      refine (List.perm_ext_iff_of_nodup (otherSeen.nodup_iff.mpr other.distinct)
        (visitedSeen.nodup_iff.mpr valid.distinct)).mpr fun name => ?_
      have same := (other.isLeast otherDone follows).unique (valid.isLeast done follows)
      exact Set.ext_iff.mp same name

/-- A disk with two files that import each other. -/
def circleDisk : Disk :=
  ⟨[(["a.py"], .file (.text "import b\n")), (["b.py"], .file (.text "import a\n"))], []⟩

/-- The first of them. -/
def circleSources : List BuildSource :=
  [⟨⟨"a.py"⟩, "a", ⟨""⟩⟩]

/-- Both are read, once each. -/
theorem visitUsing_isLeast_circle :
    (circleSources.map (·.module)).Nodup ∧
      visited (visitUsing circleDisk .default none circleSources) = ["a", "b"] ∧
      (visitUsing circleDisk .default none circleSources).queue = [] ∧
      IsLeast
        {names | IsClosed (ImportSearch.ofRoots [⟨""⟩]) circleDisk
          (Analysis.read circleDisk BuildOptions.default none) circleSources names}
        {name | name ∈ visited (visitUsing circleDisk .default none circleSources)} := by
  have distinct : (circleSources.map (·.module)).Nodup := by decide
  have final := visitUsing_isLeast circleDisk .default none circleSources distinct
  exact ⟨distinct, by decide +kernel, final.1, final.2.2.1 rfl⟩

end Declarations.Analysis
