/-
This file proves that a malformed entry of a snapshot harms only itself. Every name that is
asked for either gives a module, which has that name, or one failure, and neither depends on
other names. So the modules of a snapshot, and all that linking them finds, are those of the
snapshot without its malformed entries, and the failures are those of the malformed entries.
-/

import Declarations.Proofs.Graph.ModuleSet
import Declarations.Proofs.NameMap
import Declarations.Proofs.Snapshot.Layout
import Declarations.Snapshot.Load
import Mathlib.Data.List.Forall2

namespace Declarations

/-! ### One entry -/

theorem Module.name_addStack (module : Module) (entries : List DeclarationEntry) :
    (module.addStack (entries.map fun entry => (none, entry))).name = module.name := by
  have added := module.addStack_append none (fun _ member => nomatch member) entries []
  rw [List.append_nil, addStack] at added
  rw [added]
  rfl

/-- Whether a value is the entry of a module of a name: it has the shape, the name, the tag and
the version of one. -/
def Snapshot.WellFormed (name : String) (value : Json) : Prop :=
  ∃ entry, ModuleEntry.ofJson value = .ok entry ∧ entry.name = name ∧
    entry.tag = ModuleEntry.moduleTag ∧ entry.version = ModuleEntry.currentVersion

namespace Module

open Snapshot (WellFormed)

variable {name : String} {value : Json}

theorem ofEntry_of_wellFormed (wellFormed : WellFormed name value) :
    ∃ module, ofEntry name value = .ok module ∧ module.name = name := by
  obtain ⟨entry, read, named, tagged, current⟩ := wellFormed
  rw [ofEntry, read]
  dsimp only
  rw [if_neg (not_not_intro named), ModuleEntry.toModule, if_neg (not_not_intro tagged),
    if_neg (not_not_intro current)]
  exact ⟨_, rfl, (name_addStack _ _).trans named⟩

theorem ofEntry_of_not_wellFormed (malformed : ¬ WellFormed name value) :
    ∃ fault, ofEntry name value = .error (.malformed name fault) := by
  unfold ofEntry
  split
  next error _ => exact ⟨_, rfl⟩
  next entry read =>
    split
    next => exact ⟨_, rfl⟩
    next named =>
      have named : entry.name = name := not_not.1 named
      unfold ModuleEntry.toModule
      by_cases tagged : entry.tag = ModuleEntry.moduleTag
      · by_cases current : entry.version = ModuleEntry.currentVersion
        · exact absurd ⟨entry, read, named, tagged, current⟩ malformed
        · rw [if_neg (not_not_intro tagged), if_pos current, named]
          exact ⟨_, rfl⟩
      · rw [if_pos tagged, named]
        exact ⟨_, rfl⟩

theorem isOk_ofEntry : (ofEntry name value).isOk ↔ WellFormed name value := by
  by_cases wellFormed : WellFormed name value
  · obtain ⟨module, made, -⟩ := ofEntry_of_wellFormed wellFormed
    simp [made, wellFormed, Except.isOk, Except.toBool]
  · obtain ⟨fault, refused⟩ := ofEntry_of_not_wellFormed wellFormed
    simp [refused, wellFormed, Except.isOk, Except.toBool]

end Module

namespace Snapshot

instance (name : String) (value : Json) : Decidable (WellFormed name value) :=
  decidable_of_iff _ Module.isOk_ofEntry

/-! ### Names that are asked for -/

variable (snapshot : Snapshot)

/-- What becomes of a name that is asked for. -/
def outcome (name : String) : Except Problem Module :=
  match snapshot.get? name with
  | some value => Module.ofEntry name value
  | none => .error (.notInSnapshot name)

/-- The failure of a name that is asked for, if it gives no module. -/
def failure? (name : String) : Option Failure :=
  match snapshot.outcome name with
  | .ok _ => none
  | .error problem => some ⟨some name, none, problem⟩

/-- What the failure of a name tells: that there is no entry, or that the entry is malformed. -/
inductive Refusal (name : String) : Failure → Prop
  | absent (missing : snapshot.get? name = none) :
      Refusal name ⟨some name, none, .notInSnapshot name⟩
  | malformed {value : Json} (found : snapshot.get? name = some value)
      (bad : ¬ WellFormed name value) (fault : MalformedFault) :
      Refusal name ⟨some name, none, .malformed name fault⟩

/-- The snapshot without its malformed entries. -/
def wellFormed : Snapshot :=
  snapshot.filter fun entry => WellFormed entry.1 entry.2

variable {snapshot} {name : String}

/-- A name gives a module of that name where its entry is well-formed, and a failure where it has
no such entry. -/
theorem outcome_cases (snapshot : Snapshot) (name : String) :
    (∃ module, snapshot.outcome name = .ok module ∧ module.name = name ∧
      snapshot.wellFormed.get? name = snapshot.get? name ∧ snapshot.wellFormed.contains name) ∨
    ∃ problem, snapshot.outcome name = .error problem ∧
      snapshot.Refusal name ⟨some name, none, problem⟩ ∧
      snapshot.wellFormed.get? name = none := by
  have kept : snapshot.wellFormed.get? name =
      (snapshot.get? name).filter fun value => WellFormed name value :=
    NameMap.get?_filter _ _ name
  rw [NameMap.contains, kept, outcome]
  cases found : snapshot.get? name with
  | none => exact Or.inr ⟨_, rfl, .absent found, rfl⟩
  | some value =>
    by_cases good : WellFormed name value
    · obtain ⟨module, made, named⟩ := Module.ofEntry_of_wellFormed good
      rw [Option.filter_some_pos (by simpa using good)]
      exact Or.inl ⟨module, made, named, rfl, rfl⟩
    · obtain ⟨fault, refused⟩ := Module.ofEntry_of_not_wellFormed good
      rw [Option.filter_some_neg (by simpa using good)]
      exact Or.inr ⟨_, refused, .malformed found good fault, rfl⟩

/-! ### Lists of names -/

section

variable (snapshot)

/-- A step adds the module of its name or its failure, and leaves the other modules. -/
theorem get?_add_outcome (instantiated : Instantiated) (name other : String) :
    (instantiated.add name (snapshot.outcome name)).modules.get? other =
      (if other = name then (snapshot.outcome name).toOption else none).or
        (instantiated.modules.get? other) := by
  rcases snapshot.outcome_cases name with ⟨module, made, rfl, -⟩ | ⟨problem, refused, -⟩
  · rw [made]
    by_cases same : other = module.name
    · subst same
      rw [if_pos rfl]
      exact ModuleSet.get?_add_self _ _
    · rw [if_neg same]
      exact ModuleSet.get?_add_other _ same
  · rw [refused]
    split <;> rfl

theorem failures_add_outcome (instantiated : Instantiated) (name : String) :
    (instantiated.add name (snapshot.outcome name)).failures =
      instantiated.failures ++ (snapshot.failure? name).toList := by
  rw [failure?]
  cases snapshot.outcome name with
  | ok module => exact (List.append_nil _).symm
  | error problem => rfl

theorem get?_foldl_add_outcome (names : List String) (instantiated : Instantiated)
    (name : String) :
    (names.foldl (fun instantiated name => instantiated.add name (snapshot.outcome name))
        instantiated).modules.get? name =
      (if name ∈ names then (snapshot.outcome name).toOption else none).or
        (instantiated.modules.get? name) := by
  induction names generalizing instantiated with
  | nil => rfl
  | cons first rest hypothesis =>
    rw [List.foldl_cons, hypothesis, get?_add_outcome, ← Option.or_assoc]
    by_cases same : name = first
    -- A name that is asked for again gives the same module again.
    · subst same
      rw [if_pos rfl, if_pos List.mem_cons_self]
      split <;> simp
    · simp only [List.mem_cons, same, false_or, if_false, Option.or_none]

theorem failures_foldl_add_outcome (names : List String) (instantiated : Instantiated) :
    (names.foldl (fun instantiated name => instantiated.add name (snapshot.outcome name))
        instantiated).failures =
      instantiated.failures ++ names.filterMap snapshot.failure? := by
  induction names generalizing instantiated with
  | nil => exact (List.append_nil _).symm
  | cons first rest hypothesis =>
    rw [List.foldl_cons, hypothesis, failures_add_outcome, List.append_assoc,
      List.filterMap_cons]
    cases snapshot.failure? first <;> rfl

theorem get?_instantiateOnly (names : List String) (name : String) :
    (snapshot.instantiateOnly names).modules.get? name =
      if name ∈ names then (snapshot.outcome name).toOption else none := by
  refine (get?_foldl_add_outcome snapshot names .empty name).trans ?_
  exact Option.or_none

theorem failures_instantiateOnly (names : List String) :
    (snapshot.instantiateOnly names).failures = names.filterMap snapshot.failure? :=
  failures_foldl_add_outcome snapshot names .empty

/-- Asking for the names of all entries is making the modules of all entries. -/
theorem instantiateOnly_names : snapshot.instantiateOnly snapshot.names = snapshot.instantiate := by
  rw [instantiateOnly, instantiate, NameMap.names, List.foldl_map]
  refine List.foldl_ext _ _ _ fun instantiated entry member => ?_
  rw [snapshot.get?_of_mem member]

/-- A list of names gives one failure for each that has no entry which is well-formed. -/
theorem refusal_failures (names : List String) :
    List.Forall₂ snapshot.Refusal
      (names.filter fun name => !snapshot.wellFormed.contains name)
      (names.filterMap snapshot.failure?) := by
  induction names with
  | nil => exact .nil
  | cons name rest hypothesis =>
    rcases snapshot.outcome_cases name with
      ⟨module, made, -, -, kept⟩ | ⟨problem, refused, refusal, gone⟩
    · rw [List.filter_cons_of_neg (by simp [kept]), List.filterMap_cons, failure?, made]
      exact hypothesis
    · have removed : snapshot.wellFormed.contains name = false := by
        rw [NameMap.contains, gone]
        rfl
      rw [List.filter_cons_of_pos (by simp [removed]), List.filterMap_cons, failure?, refused]
      exact .cons refusal hypothesis

end

/-! ### All entries -/

theorem get?_instantiate (snapshot : Snapshot) (name : String) :
    snapshot.instantiate.modules.get? name = (snapshot.outcome name).toOption := by
  rw [← instantiateOnly_names, get?_instantiateOnly]
  split
  next => rfl
  next unknown =>
    have missing : snapshot.get? name = none := by
      rwa [NameMap.mem_names_iff, NameMap.contains, Option.not_isSome_iff_eq_none] at unknown
    rw [outcome, missing]
    rfl

theorem failures_instantiate (snapshot : Snapshot) :
    snapshot.instantiate.failures = snapshot.names.filterMap snapshot.failure? := by
  rw [← instantiateOnly_names, failures_instantiateOnly]

/-- A module of a snapshot has the name of its entry, and is what the entry is read as. -/
theorem of_get?_instantiate {module : Module}
    (found : snapshot.instantiate.modules.get? name = some module) :
    module.name = name ∧
      ∃ value, snapshot.get? name = some value ∧ Module.ofEntry name value = .ok module := by
  refine ⟨snapshot.instantiate.modules.fits_of_get? found, ?_⟩
  rw [get?_instantiate, outcome] at found
  cases stored : snapshot.get? name with
  | none =>
    rw [stored] at found
    cases found
  | some value =>
    simp only [stored] at found
    cases read : Module.ofEntry name value with
    | error problem =>
      rw [read] at found
      cases found
    | ok other =>
      rw [read] at found
      exact ⟨value, rfl, read.trans (congrArg _ (Option.some.inj found))⟩

theorem contains_instantiate (snapshot : Snapshot) (name : String) :
    snapshot.instantiate.modules.contains name = snapshot.wellFormed.contains name := by
  rw [NameMap.contains, get?_instantiate]
  rcases snapshot.outcome_cases name with ⟨module, made, -, -, kept⟩ | ⟨problem, refused, -, gone⟩
  · rw [made, kept]
    rfl
  · rw [refused, NameMap.contains, gone]
    rfl

/-- Asking for some names leaves out the modules of the other names. -/
theorem modules_instantiateOnly (snapshot : Snapshot) (names : List String) :
    (snapshot.instantiateOnly names).modules =
      snapshot.instantiate.modules.filter fun entry => entry.1 ∈ names := by
  refine NameMap.ext_get? fun name => ?_
  rw [get?_instantiateOnly, NameMap.get?_filter, get?_instantiate]
  by_cases asked : name ∈ names
  · rw [if_pos asked]
    cases (snapshot.outcome name).toOption with
    | none => rfl
    | some module =>
      rw [Option.filter_some_pos (by simpa using asked)]
  · rw [if_neg asked]
    exact (Option.filter_eq_none_iff.2 fun module _ => by simpa using asked).symm

/-- Without its malformed entries a snapshot gives the same modules, and no failure. -/
theorem instantiate_wellFormed (snapshot : Snapshot) :
    snapshot.wellFormed.instantiate = ⟨snapshot.instantiate.modules, []⟩ := by
  have modules : snapshot.wellFormed.instantiate.modules = snapshot.instantiate.modules := by
    refine NameMap.ext_get? fun name => ?_
    rw [get?_instantiate, get?_instantiate]
    rcases snapshot.outcome_cases name with ⟨module, -, -, same, -⟩ | ⟨problem, refused, -, gone⟩
    · rw [outcome, same, outcome]
    · rw [refused, outcome, gone]
      rfl
  have failures : snapshot.wellFormed.instantiate.failures = [] := by
    rw [failures_instantiate, List.filterMap_eq_nil_iff]
    intro name member
    have kept := NameMap.mem_names_iff.1 member
    rcases snapshot.outcome_cases name with ⟨module, made, -, same, -⟩ | ⟨problem, -, -, gone⟩
    · rw [failure?, outcome, same, ← outcome, made]
    · rw [NameMap.contains, gone] at kept
      cases kept
  rw [← modules, ← failures]

/-- The failures of a snapshot are those of its malformed entries, in order. -/
theorem malformed_failures (snapshot : Snapshot) :
    List.Forall₂ (fun name failure => ∃ fault, failure = ⟨some name, none, .malformed name fault⟩)
      (snapshot.names.filter fun name => !snapshot.wellFormed.contains name)
      snapshot.instantiate.failures := by
  have present : ∀ name ∈ snapshot.names.filter fun name => !snapshot.wellFormed.contains name,
      snapshot.contains name :=
    fun name member => NameMap.mem_names_iff.1 (List.mem_of_mem_filter member)
  rw [failures_instantiate]
  have refusals := (List.forall₂_and_left _ _).2 ⟨present, snapshot.refusal_failures snapshot.names⟩
  refine refusals.imp ?_
  rintro name failure ⟨given, refusal⟩
  cases refusal with
  | absent missing =>
    rw [NameMap.contains, missing] at given
    cases given
  | malformed found bad fault => exact ⟨fault, rfl⟩

/-- A name of an entry stands with a failure just if it stands with no module. -/
theorem exists_failure_iff (present : snapshot.contains name) :
    (∃ failure ∈ snapshot.instantiate.failures, failure.module = some name) ↔
      ¬ snapshot.instantiate.modules.contains name := by
  rw [failures_instantiate, contains_instantiate]
  rcases snapshot.outcome_cases name with ⟨module, made, -, -, kept⟩ | ⟨problem, refused, -, gone⟩
  · refine iff_of_false ?_ (not_not_intro kept)
    rintro ⟨failure, member, named⟩
    obtain ⟨other, -, fails⟩ := List.mem_filterMap.1 member
    have given : some other = some name := by
      rw [← named]
      unfold failure? at fails
      split at fails
      · cases fails
      · rw [← Option.some.inj fails]
    rw [Option.some.inj given, failure?, made] at fails
    cases fails
  · refine iff_of_true ⟨⟨some name, none, problem⟩, ?_, rfl⟩ ?_
    · refine List.mem_filterMap.2 ⟨name, NameMap.mem_names_iff.2 present, ?_⟩
      rw [failure?, refused]
    · rw [NameMap.contains, gone]
      exact Bool.false_ne_true

theorem contains_load (snapshot : Snapshot) (previous : ModuleSet) (name : String) :
    (snapshot.load previous).modules.contains name =
      snapshot.instantiate.modules.contains name := by
  have linked := ModuleSet.get?_link snapshot.instantiate.modules previous name
  exact (congrArg Option.isSome linked).trans Option.isSome_map

/-- A malformed entry harms only itself. The name of each entry is that of a loaded module or of
a failure, never of both; a module has the name of its entry; there is one failure for each
malformed entry, in the order of their names; and all else is as if these entries were not
there. A list of names gives the modules of all entries that it names, and one failure each
time it names one that is malformed or missing. -/
theorem load_malformed (snapshot : Snapshot) (previous : ModuleSet) :
    (∀ name, snapshot.contains name →
      Xor ((snapshot.load previous).modules.contains name)
        (∃ failure ∈ (snapshot.load previous).failures, failure.module = some name)) ∧
    (∀ name module, snapshot.instantiate.modules.get? name = some module →
      module.name = name ∧
        ∃ value, snapshot.get? name = some value ∧ Module.ofEntry name value = .ok module) ∧
    List.Forall₂ (fun name failure => ∃ fault, failure = ⟨some name, none, .malformed name fault⟩)
      (snapshot.names.filter fun name => !snapshot.wellFormed.contains name)
      (snapshot.load previous).failures ∧
    snapshot.wellFormed.load previous =
      ⟨(snapshot.load previous).modules, [], (snapshot.load previous).unresolved⟩ ∧
    ∀ names : List String,
      (snapshot.instantiateOnly names).modules =
        snapshot.instantiate.modules.filter (fun entry => entry.1 ∈ names) ∧
      List.Forall₂ snapshot.Refusal
        (names.filter fun name => !snapshot.wellFormed.contains name)
        (snapshot.instantiateOnly names).failures := by
  refine ⟨fun name present => ?_, fun _ _ => of_get?_instantiate, ?_, ?_, fun names => ⟨?_, ?_⟩⟩
  · rw [contains_load, xor_iff_not_iff']
    exact (exists_failure_iff present).symm
  · exact snapshot.malformed_failures
  · rw [load, load, instantiate_wellFormed]
  · exact snapshot.modules_instantiateOnly names
  · rw [failures_instantiateOnly]
    exact snapshot.refusal_failures names

/-- An entry that is no module, and one that is. -/
theorem load_malformed_page :
    let snapshot : Snapshot := NameMap.ofList [
      ("page", (ModuleEntry.ofModule (Module.skeleton "page" ⟨"page.py"⟩)).toJson.sorted),
      ("book", .text "a book")]
    let result := snapshot.load NameMap.empty
    snapshot.names = ["book", "page"] ∧ snapshot.wellFormed.names = ["page"] ∧
      snapshot.contains "book" ∧
      Xor (result.modules.contains "book")
        (∃ failure ∈ result.failures, failure.module = some "book") := by
  intro snapshot result
  have present : snapshot.contains "book" := by decide
  exact ⟨by decide, by decide, present, (load_malformed snapshot _).1 "book" present⟩

end Snapshot

end Declarations
