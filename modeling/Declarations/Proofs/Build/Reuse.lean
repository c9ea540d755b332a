/-
This file proves that modules may be taken from a cache. The invariant is that every entry
which can be read holds the module that some origin gives; it is enough because a build takes
an entry only where the fingerprint is that of the origin at hand, and it is kept because a
build writes only what it made from an origin.
-/

import Declarations.Proofs.Build.Entries
import Declarations.Proofs.Build.Rounds
import Declarations.Proofs.Disk.Writing

namespace Declarations

/-! ### Origins -/

namespace Origin

/-- Whether fingerprints tell origins apart: no two of their texts collide, and each path is on
one line. -/
structure Apart (origins : List Origin) : Prop where
  oneLine : ∀ origin ∈ origins, origin.OneLine
  noCollision : ∀ first ∈ origins, ∀ second ∈ origins,
    Fingerprint.ofText first.stamped = Fingerprint.ofText second.stamped →
      first.stamped = second.stamped

theorem Apart.eq_of_fingerprint {origins : List Origin} (apart : Apart origins)
    {first second : Origin} (member : first ∈ origins) (other : second ∈ origins)
    (same : first.fingerprint = second.fingerprint) : first = second :=
  stamped_inj (apart.oneLine first member) (apart.oneLine second other)
    (apart.noCollision first member second other same)

theorem Apart.mono {origins more : List Origin} (apart : Apart more)
    (within : ∀ origin ∈ origins, origin ∈ more) : Apart origins where
  oneLine origin member := apart.oneLine origin (within origin member)
  noCollision first member second other :=
    apart.noCollision first (within first member) second (within second other)

/-- Whether a module is what one of some origins gives, with the fingerprint of that origin. -/
def Gives (origins : List Origin) (module : Module) (fingerprint : String) : Prop :=
  ∃ origin ∈ origins, origin.fingerprint = fingerprint ∧ origin.lower module.name = .ok module

theorem Gives.mono {origins more : List Origin} {module : Module} {fingerprint : String}
    (gives : Gives origins module fingerprint) (within : ∀ origin ∈ origins, origin ∈ more) :
    Gives more module fingerprint := by
  obtain ⟨origin, member, marked, lowered⟩ := gives
  exact ⟨origin, within origin member, marked, lowered⟩

theorem lower_cases {origin : Origin} {name : String} {module : Module}
    (lowered : origin.lower name = .ok module) : module.Fresh ∧ module.name = name := by
  unfold lower at lowered
  cases read : Outline.read origin.text with
  | error line =>
    rw [read] at lowered
    cases lowered
  | ok outline =>
    rw [read] at lowered
    cases lowered
    exact ⟨Module.fresh_ofOutline _ _ _ _, Module.name_ofOutline _ _ _ _⟩

theorem path_of_lower {origin : Origin} {name : String} {module : Module}
    (lowered : origin.lower name = .ok module) : module.path = origin.path := by
  unfold lower at lowered
  cases read : Outline.read origin.text with
  | error line =>
    rw [read] at lowered
    cases lowered
  | ok outline =>
    rw [read] at lowered
    cases lowered
    exact Module.path_ofOutline _ _ _ _

theorem path_of_ofSource {disk : Disk} {options : LoweringOptions} {source : BuildSource}
    {origin : Origin} (given : ofSource disk options source = .ok origin) :
    origin.path = source.path := by
  unfold ofSource at given
  cases text : sourceText disk source.path with
  | error problem =>
    rw [text] at given
    cases given
  | ok content =>
    rw [text] at given
    cases given
    rfl

end Origin

/-! ### The entries of a cache -/

namespace Cache

/-- Whether every entry that can be read as a module of its name is what some origin gives. -/
def Faithful (cache : Cache) (origins : List Origin) (disk : Disk) : Prop :=
  ∀ name entry module, cache.entry? disk name = some entry → entry.module.toModule = .ok module →
    module.name = name → Origin.Gives origins module entry.fingerprint

/-- Whether a text, read as an entry, is what some origin gives. -/
def Harmless (origins : List Origin) (text : String) : Prop :=
  ∀ entry module, CacheEntry.ofText? text = some entry →
    entry.module.toModule = .ok module → Origin.Gives origins module entry.fingerprint

variable {cache : Cache} {origins : List Origin} {disk : Disk}

theorem Faithful.mono {more : List Origin} (faithful : cache.Faithful origins disk)
    (within : ∀ origin ∈ origins, origin ∈ more) : cache.Faithful more disk :=
  fun name entry module shown made named =>
    (faithful name entry module shown made named).mono within

/-- Writing a harmless text, wherever it goes, keeps the entries faithful. -/
theorem Faithful.write {written : Disk} {path : Path} {text : String}
    (faithful : cache.Faithful origins disk) (harmless : Harmless origins text)
    (success : disk.write path (.text text) = .ok written) : cache.Faithful origins written := by
  obtain ⟨place, _, wrote⟩ := Disk.wrote_of_write success
  intro name entry module shown made named
  unfold entry? at shown
  rcases wrote.readText_cases (cache.entryPath name) with new | old
  · rw [new] at shown
    exact harmless entry module shown made
  · rw [old] at shown
    exact faithful name entry module shown made named

/-- What is written for a module that an origin gives is harmless. -/
theorem harmless_entryText {module : Module} {fingerprint : String}
    (gives : Origin.Gives origins module fingerprint) :
    Harmless origins (cache.entryText module fingerprint) := by
  obtain ⟨origin, member, marked, lowered⟩ := gives
  have fresh := (Origin.lower_cases lowered).1
  intro entry other read made
  rw [ofText?_entryText read] at made ⊢
  rw [ModuleEntry.toModule_forget_ofModule fresh.ordered, fresh.reset_eq] at made
  cases made
  exact ⟨origin, member, marked, lowered⟩

/-- So is what is written as the manifest. -/
theorem harmless_pretty (manifest : Manifest) : Harmless origins manifest.toJson.pretty := by
  intro entry module read
  rw [manifest.ofText?_pretty] at read
  cases read

/-- A module is taken from an entry of its name and fingerprint that can be read. -/
theorem get?_cases {name fingerprint : String} {module : Module}
    (found : cache.get? disk name fingerprint = some module) :
    ∃ entry, cache.entry? disk name = some entry ∧ entry.fingerprint = fingerprint ∧
      entry.module.toModule = .ok module ∧ module.name = name := by
  unfold get? at found
  cases shown : cache.entry? disk name with
  | none => simp [shown] at found
  | some entry =>
    have taken : (entry.fingerprint = fingerprint ∧ cache.accepts entry.version = true) ∧
        (entry.module.toModule.toOption.bind fun module =>
          if module.name = name then some module else none) = some module := by
      simpa [shown] using found
    obtain ⟨⟨marked, _⟩, kept⟩ := taken
    cases made : entry.module.toModule with
    | error error => simp [made, Except.toOption] at kept
    | ok other =>
      simp only [made, Except.toOption, Option.bind_some, Option.ite_none_right_eq_some,
        Option.some.injEq] at kept
      obtain ⟨named, rfl⟩ := kept
      exact ⟨entry, rfl, marked, made, named⟩

theorem Faithful.gives_of_get? {name fingerprint : String} {module : Module}
    (faithful : cache.Faithful origins disk)
    (found : cache.get? disk name fingerprint = some module) :
    module.name = name ∧ Origin.Gives origins module fingerprint := by
  obtain ⟨entry, shown, rfl, made, named⟩ := get?_cases found
  exact ⟨named, faithful name entry module shown made named⟩

end Cache

/-! ### Reading with a cache -/

namespace Analysis

/-- What the files that a build reads give rise to. -/
def origins (disk : Disk) (options : BuildOptions) (sources : List BuildSource) : List Origin :=
  (visitUsing disk options none sources).visits.filterMap fun visit =>
    (Origin.ofSource disk options visit.source).toOption

variable {disk : Disk} {options : BuildOptions} {sources : List BuildSource}

theorem mem_origins {visit : Visit} {origin : Origin}
    (visited : visit ∈ (visitUsing disk options none sources).visits)
    (read : Origin.ofSource disk options visit.source = .ok origin) :
    origin ∈ origins disk options sources := by
  refine List.mem_filterMap.mpr ⟨visit, visited, ?_⟩
  rw [read]
  rfl

variable {cache : Cache} {before : List Origin}

theorem read_of_unreadable {usable : Option Cache} {source : BuildSource} {problem : Problem}
    (unreadable : Origin.ofSource disk options source = .error problem) :
    read disk options usable source = .error problem := by
  unfold read
  rw [unreadable]
  rfl

/-- A module is taken from a cache where it has an entry for what the file gives, and made from that
elsewhere. -/
theorem read_of_ofSource {usable : Option Cache} {source : BuildSource} {origin : Origin}
    (given : Origin.ofSource disk options source = .ok origin) :
    read disk options usable source =
      match usable.bind fun cache => cache.get? disk source.module origin.fingerprint with
      | some module => .ok ⟨module, origin.fingerprint, false⟩
      | none => (origin.lower source.module).map fun module =>
          ⟨module, origin.fingerprint, true⟩ := by
  unfold read
  simp only [given, bind, Except.bind]
  cases usable.bind fun cache => cache.get? disk source.module origin.fingerprint with
  | some module => rfl
  | none => cases origin.lower source.module <;> rfl

/-- A module is taken from a cache, by the fingerprint of what its file gives, or made from that. -/
theorem read_cases {usable : Option Cache} {source : BuildSource} {reading : Reading}
    (success : read disk options usable source = .ok reading) :
    ∃ origin, Origin.ofSource disk options source = .ok origin ∧
      reading.fingerprint = origin.fingerprint ∧
      ((∃ cache : Cache, cache.get? disk source.module origin.fingerprint = some reading.module ∧
          reading.isFresh = false) ∨
        (origin.lower source.module = .ok reading.module ∧ reading.isFresh = true)) := by
  cases given : Origin.ofSource disk options source with
  | error problem => cases (read_of_unreadable given).symm.trans success
  | ok origin =>
    refine ⟨origin, rfl, ?_⟩
    rw [read_of_ofSource given] at success
    split at success
    next module found =>
      cases success
      obtain ⟨cache, -, got⟩ := Option.bind_eq_some_iff.mp found
      exact ⟨rfl, .inl ⟨cache, got, rfl⟩⟩
    next =>
      cases lowered : origin.lower source.module with
      | error problem =>
        rw [lowered] at success
        cases success
      | ok module =>
        rw [lowered] at success
        cases success
        exact ⟨rfl, .inr ⟨rfl, rfl⟩⟩

/-- What is read anew is made from what the file gives. -/
theorem fresh_of_read {usable : Option Cache} {source : BuildSource} {reading : Reading}
    (success : read disk options usable source = .ok reading) (isFresh : reading.isFresh = true) :
    ∃ origin, Origin.ofSource disk options source = .ok origin ∧
      reading.fingerprint = origin.fingerprint ∧
      origin.lower source.module = .ok reading.module := by
  obtain ⟨origin, given, marked, ⟨_, _, stored⟩ | ⟨lowered, _⟩⟩ := read_cases success
  · rw [stored] at isFresh
    cases isFresh
  · exact ⟨origin, given, marked, lowered⟩

/-- A reading that comes from a faithful cache is what reading the file gives. -/
theorem agree_read (faithful : cache.Faithful before disk)
    (apart : Origin.Apart (before ++ origins disk options sources)) (usable : Option Cache)
    (only : ∀ other ∈ usable, other = cache) {visit : Visit}
    (visited : visit ∈ (visitUsing disk options none sources).visits) :
    Agree (read disk options usable) (read disk options none) visit.source := by
  unfold Agree read
  cases given : Origin.ofSource disk options visit.source with
  | error problem => rfl
  | ok origin =>
    have here : origin ∈ before ++ origins disk options sources :=
      List.mem_append_right _ (mem_origins visited given)
    cases found : usable.bind fun cache =>
        cache.get? disk visit.source.module origin.fingerprint with
    | none =>
      simp only [bind, Except.bind, found, Option.bind_none]
      cases origin.lower visit.source.module <;> rfl
    | some module =>
      obtain ⟨taken, isUsable, got⟩ := Option.bind_eq_some_iff.mp found
      rw [only taken isUsable] at got
      obtain ⟨named, other, member, marked, lowered⟩ := faithful.gives_of_get? got
      have same : other = origin :=
        apart.eq_of_fingerprint (List.mem_append_left _ member) here marked
      rw [same, named] at lowered
      simp only [bind, Except.bind, found, Option.bind_none, lowered]
      rfl

/-- The visits of a build with a faithful cache are those of one without. -/
theorem anew_visitAll_read (faithful : cache.Faithful before disk)
    (apart : Origin.Apart (before ++ origins disk options sources)) (usable : Option Cache)
    (only : ∀ other ∈ usable, other = cache) :
    (visitUsing disk options usable sources).anew = visitUsing disk options none sources :=
  anew_visitAll fun _ visited => agree_read faithful apart usable only visited

/-- A module that a build read anew is what one of the files gives. -/
theorem gives_of_fresh {usable : Option Cache} {reading : Reading}
    (same : (visitUsing disk options usable sources).anew = visitUsing disk options none sources)
    (member : reading ∈ readings (visitUsing disk options usable sources))
    (isFresh : reading.isFresh = true) :
    Origin.Gives (origins disk options sources) reading.module reading.fingerprint := by
  obtain ⟨visit, visited, kept⟩ := List.mem_filterMap.mp member
  have outcome := faithful_visitAll sources visit visited
  have anew : visit.anew ∈ (visitUsing disk options none sources).visits := by
    rw [← same]
    exact List.mem_map_of_mem visited
  have success : read disk options usable visit.source = .ok reading := by
    rw [← outcome]
    cases result : visit.outcome with
    | error problem =>
      rw [result] at kept
      cases kept
    | ok other =>
      rw [result] at kept
      cases kept
      rfl
  obtain ⟨origin, given, marked, lowered⟩ := fresh_of_read success isFresh
  refine ⟨origin, mem_origins anew given, marked.symm, ?_⟩
  rw [(Origin.lower_cases lowered).2]
  exact lowered

/-! ### Writing a cache -/

/-- Storing modules that origins give keeps the entries faithful and the directories in place. -/
theorem faithful_store {given : List Origin} {progress : Progress}
    (has : disk.Has cache.entries) (faithful : cache.Faithful given disk)
    (gives : ∀ reading ∈ readings progress, reading.isFresh = true →
      Origin.Gives given reading.module reading.fingerprint) :
    (store cache progress disk).Has cache.entries ∧
      cache.Faithful given (store cache progress disk) := by
  have each : ∀ reading ∈ (readings progress).filter (·.isFresh),
      Origin.Gives given reading.module reading.fingerprint := fun reading member =>
    gives reading (List.mem_filter.mp member).1 (List.mem_filter.mp member).2
  unfold store
  generalize (readings progress).filter (·.isFresh) = kept at each ⊢
  induction kept generalizing disk with
  | nil => exact ⟨has, faithful⟩
  | cons reading rest inductionHypothesis =>
    have later : ∀ other ∈ rest, Origin.Gives given other.module other.fingerprint :=
      fun other member => each other (List.mem_cons_of_mem _ member)
    rw [List.foldl_cons]
    cases success : cache.put reading.module reading.fingerprint disk with
    | error fault => exact inductionHypothesis has faithful later
    | ok written =>
      exact inductionHypothesis (has.write success)
        (faithful.write (Cache.harmless_entryText (each reading List.mem_cons_self)) success) later

/-- What a build stores keeps the entries faithful, whether or not it used the cache to read. -/
theorem faithful_store_visits (has : disk.Has cache.entries) (faithful : cache.Faithful before disk)
    (apart : Origin.Apart (before ++ origins disk options sources)) (usable : Option Cache)
    (only : ∀ other ∈ usable, other = cache) :
    (store cache (visitUsing disk options usable sources) disk).Has cache.entries ∧
      cache.Faithful (before ++ origins disk options sources)
        (store cache (visitUsing disk options usable sources) disk) := by
  have same := anew_visitAll_read faithful apart usable only
  have gives : ∀ reading ∈ readings (visitUsing disk options usable sources),
      reading.isFresh = true →
        Origin.Gives (before ++ origins disk options sources) reading.module
          reading.fingerprint := by
    intro reading member isFresh
    exact (gives_of_fresh same member isFresh).mono fun _ => List.mem_append_right _
  exact faithful_store has (faithful.mono fun _ => List.mem_append_left _) gives

end Analysis

end Declarations
