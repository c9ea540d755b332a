/-
This file proves what linking does to a set of modules, and that its report is true. Every
reference is settled by itself: one that was resolved stays, and any other gets the target
of its key in the index made before the first look-up, or is marked as unresolved. Nothing
else changes. The report lists the references that are unresolved afterwards, module by
module and in the order in which the references of a module are listed, and counts all
others that were open.
-/

import Declarations.Linking.Link
import Declarations.Proofs.Graph.References
import Declarations.Proofs.Graph.Visiting
import Mathlib.Algebra.BigOperators.Group.List.Basic
import Mathlib.Algebra.GroupWithZero.Nat
import Mathlib.Data.List.Forall2

namespace Declarations

/-! ### One reference -/

/-- What linking makes of a reference. -/
def Reference.settle (index : SymbolIndex) (reference : Reference) : Reference :=
  if reference.isResolved then reference
  else
    match index.lookup reference.key with
    | some target => { reference with resolution := .resolved target }
    | none => { reference with resolution := .unresolved }

/-- What linking a reference adds to the report of its module. -/
def LinkReport.note (index : SymbolIndex) (module : String) (report : LinkReport)
    (entry : String × Reference) : LinkReport :=
  if entry.2.isResolved then report
  else
    match index.lookup entry.2.key with
    | some _ => { report with resolved := report.resolved + 1 }
    | none =>
      { report with unresolved := report.unresolved ++ [⟨module, entry.1, entry.2.key⟩] }

/-- How a reference stands after linking: it has its key, a resolved one is the same, and any
other is resolved to the target of its key, or unresolved where there is none. -/
structure Reference.Settled (index : SymbolIndex) (before after : Reference) : Prop where
  key : after.key = before.key
  kept : before.isResolved → after = before
  found : ¬ before.isResolved →
    ∀ target, after.resolution = .resolved target ↔ index.lookup before.key = some target
  missing : ¬ before.isResolved →
    (after.resolution = .unresolved ↔ index.lookup before.key = none)

namespace Reference

variable (index : SymbolIndex) (module : String)

theorem link_eq_notingOwner :
    link index module =
      Module.notingOwner (settle index) (LinkReport.note index module) := by
  refine funext fun owner => funext fun reference => funext fun report => ?_
  show (link index module owner reference).run report =
    (settle index reference, LinkReport.note index module report (owner, reference))
  unfold link settle LinkReport.note
  cases resolved : reference.isResolved with
  | true => rfl
  | false =>
    cases index.lookup reference.key <;> rfl

theorem forget_settle (reference : Reference) :
    (reference.settle index).forget = reference.forget := by
  unfold settle
  split
  · rfl
  · split <;> rfl

theorem exists_of_isResolved {reference : Reference} (resolved : reference.isResolved) :
    ∃ target, reference.resolution = .resolved target := by
  obtain ⟨key, resolution⟩ := reference
  cases resolution with
  | resolved target => exact ⟨target, rfl⟩
  | pending => cases resolved
  | unresolved => cases resolved

theorem isPending_settle (reference : Reference) : (reference.settle index).isPending = false := by
  unfold settle
  split
  next resolved =>
    obtain ⟨target, here⟩ := exists_of_isResolved resolved
    rw [isPending, here]
    rfl
  next => split <;> rfl

theorem settled_settle (reference : Reference) :
    reference.Settled index (reference.settle index) := by
  unfold settle
  split
  next resolved =>
    exact ⟨rfl, fun _ => rfl, fun unresolved => absurd resolved unresolved,
      fun unresolved => absurd resolved unresolved⟩
  next unresolved =>
    cases looked : index.lookup reference.key with
    | some target =>
      exact ⟨rfl, fun resolved => absurd resolved unresolved,
        fun _ other => by simp [looked], fun _ => by simp [looked]⟩
    | none =>
      exact ⟨rfl, fun resolved => absurd resolved unresolved,
        fun _ other => by simp [looked], fun _ => by simp [looked]⟩

theorem isUnresolved_settle (reference : Reference) :
    (reference.settle index).isUnresolved =
      (!reference.isResolved && (index.lookup reference.key).isNone) := by
  unfold settle
  split
  next resolved =>
    obtain ⟨target, here⟩ := exists_of_isResolved resolved
    rw [isUnresolved, here, resolved]
    rfl
  next unresolved =>
    rw [Bool.not_eq_true] at unresolved
    cases index.lookup reference.key <;> simp [unresolved, isUnresolved]

end Reference

/-! ### One module -/

namespace Module

/-- The references of a module that are marked as unresolved, as reports show them. -/
def unresolvedReferences (module : Module) : List UnresolvedReference :=
  (module.references.filter fun entry => entry.2.isUnresolved).map
    fun entry => ⟨module.name, entry.1, entry.2.key⟩

theorem length_unresolvedReferences (module : Module) :
    module.unresolvedReferences.length = module.unresolvedCount :=
  List.length_map _

/-- How many references of a module have no target. -/
def openCount (module : Module) : Nat :=
  module.references.countP fun entry => !entry.2.isResolved

/-- How a module stands after linking: its references are settled one by one, and nothing but
their resolutions and the state of the module may differ. -/
structure Linked (index : SymbolIndex) (before after : Module) : Prop where
  state : after.state = .resolved
  looked : after.pendingCount = 0
  references : List.Forall₂ (fun earlier later => later.1 = earlier.1 ∧
    earlier.2.Settled index later.2) before.references after.references
  rest : { after.mapReferences Reference.forget with state := before.state } =
    before.mapReferences Reference.forget

variable (index : SymbolIndex)

/-- A step reports its reference when the reference is unresolved afterwards, -/
theorem unresolved_note (name : String) (report : LinkReport) (entry : String × Reference) :
    (report.note index name entry).unresolved =
      report.unresolved ++
        if (entry.2.settle index).isUnresolved then [⟨name, entry.1, entry.2.key⟩] else [] := by
  rw [Reference.isUnresolved_settle]
  unfold LinkReport.note
  cases entry.2.isResolved with
  | true => simp
  | false => cases index.lookup entry.2.key <;> simp

/-- and counts it when it was open and no longer is. -/
theorem resolved_note (name : String) (report : LinkReport) (entry : String × Reference) :
    (report.note index name entry).resolved +
        (if (entry.2.settle index).isUnresolved then 1 else 0) =
      report.resolved + if !entry.2.isResolved then 1 else 0 := by
  rw [Reference.isUnresolved_settle]
  unfold LinkReport.note
  cases entry.2.isResolved with
  | true => simp
  | false => cases index.lookup entry.2.key <;> simp

theorem unresolved_foldl_note (name : String) (entries : List (String × Reference))
    (report : LinkReport) :
    (entries.foldl (LinkReport.note index name) report).unresolved =
      report.unresolved ++
        (entries.filter fun entry => (entry.2.settle index).isUnresolved).map
          fun entry => ⟨name, entry.1, entry.2.key⟩ := by
  induction entries generalizing report with
  | nil => simp
  | cons entry rest hypothesis =>
    rw [List.foldl_cons, hypothesis, unresolved_note, List.filter_cons]
    split <;> simp

theorem resolved_foldl_note (name : String) (entries : List (String × Reference))
    (report : LinkReport) :
    (entries.foldl (LinkReport.note index name) report).resolved +
        entries.countP (fun entry => (entry.2.settle index).isUnresolved) =
      report.resolved + entries.countP fun entry => !entry.2.isResolved := by
  induction entries generalizing report with
  | nil => rfl
  | cons entry rest hypothesis =>
    have step := resolved_note index name report entry
    have run := hypothesis (report.note index name entry)
    rw [List.foldl_cons, List.countP_cons, List.countP_cons]
    omega

/-- Linking a module settles its references and notes them one after the other. -/
theorem link_eq (module : Module) :
    module.link index =
      ({ module.mapReferences (Reference.settle index) with state := .resolved },
        module.references.foldl (LinkReport.note index module.name) .empty) := by
  rw [link, Reference.link_eq_notingOwner, visitReferences_notingOwner]
  rfl

theorem linked_link (module : Module) : Linked index module (module.link index).1 := by
  rw [link_eq]
  refine ⟨rfl, ?_, ?_, ?_⟩
  · show ((module.mapReferences _).references.filter _).length = 0
    rw [references_mapReferences, List.length_eq_zero_iff, List.filter_eq_nil_iff]
    rintro entry member
    obtain ⟨before, -, rfl⟩ := List.mem_map.1 member
    simp [Reference.isPending_settle]
  · show List.Forall₂ _ module.references (module.mapReferences _).references
    rw [references_mapReferences, List.forall₂_map_right_iff, List.forall₂_same]
    exact fun entry _ => ⟨rfl, entry.2.settled_settle index⟩
  · show (module.mapReferences _).mapReferences _ = _
    rw [mapReferences_mapReferences, funext (Reference.forget_settle index)]

/-- The report of a module lists what is unresolved in it afterwards, -/
theorem unresolved_link (module : Module) :
    (module.link index).2.unresolved = (module.link index).1.unresolvedReferences := by
  rw [link_eq, unresolved_foldl_note]
  show _ = ((module.mapReferences _).references.filter _).map _
  rw [references_mapReferences, List.filter_map, List.map_map]
  refine List.map_congr_left fun entry _ => ?_
  show _ = UnresolvedReference.mk module.name entry.1 (entry.2.settle index).key
  rw [(entry.2.settled_settle index).key]

/-- and with it counts what was open before. -/
theorem resolved_link (module : Module) :
    (module.link index).2.resolved + (module.link index).1.unresolvedCount = module.openCount := by
  have run := resolved_foldl_note index module.name module.references .empty
  rw [link_eq]
  show _ + ((module.mapReferences _).references.filter _).length = _
  rw [references_mapReferences, List.filter_map, List.length_map, ← List.countP_eq_length_filter]
  exact run.trans (Nat.zero_add _)

end Module

/-! ### A set of modules -/

namespace LinkReport

theorem unresolved_foldl_append (reports : List LinkReport) (start : LinkReport) :
    (reports.foldl append start).unresolved =
      start.unresolved ++ reports.flatMap (·.unresolved) := by
  induction reports generalizing start with
  | nil => simp
  | cons report rest hypothesis => simp [hypothesis, append]

theorem resolved_foldl_append (reports : List LinkReport) (start : LinkReport) :
    (reports.foldl append start).resolved = start.resolved + (reports.map (·.resolved)).sum := by
  induction reports generalizing start with
  | nil => simp
  | cons report rest hypothesis => simp [hypothesis, append, Nat.add_assoc]

end LinkReport

namespace ModuleSet

theorem get?_link (modules previous : ModuleSet) (name : String) :
    (modules.link previous).1.get? name = (modules.get? name).map fun module =>
      (module.link (SymbolIndex.build modules previous)).1 := by
  rw [link, NameMap.get?_alter, NameMap.get?_alter, Option.map_map]
  rfl

theorem values_link (modules previous : ModuleSet) :
    (modules.link previous).1.values =
      modules.values.map fun module =>
        (module.link (SymbolIndex.build modules previous)).1 := by
  rw [link, NameMap.values_alter, NameMap.values_alter, List.map_map]
  rfl

theorem unresolved_link (modules previous : ModuleSet) :
    (modules.link previous).2.unresolved =
      (modules.link previous).1.values.flatMap Module.unresolvedReferences := by
  rw [values_link, link, LinkReport.unresolved_foldl_append, NameMap.values_alter, List.flatMap_map,
    List.flatMap_map, List.flatMap_map, funext (Module.unresolved_link _)]
  rfl

theorem resolved_link (modules previous : ModuleSet) :
    (modules.link previous).2.resolved =
      (modules.values.map fun module =>
        (module.link (SymbolIndex.build modules previous)).2.resolved).sum := by
  rw [link, LinkReport.resolved_foldl_append, NameMap.values_alter, List.map_map, List.map_map]
  exact Nat.zero_add _

/-- Linking settles every reference of every module and changes nothing else. It reports what
is unresolved afterwards, in the order of the modules and of the references in each, and
counts what it resolved. -/
theorem link_settles (modules previous : ModuleSet) :
    let index := SymbolIndex.build modules previous
    let linked := (modules.link previous).1
    let report := (modules.link previous).2
    List.Forall₂ (fun earlier later => later.1 = earlier.1 ∧ earlier.2.Linked index later.2)
        modules.entries linked.entries ∧
      report.unresolved = linked.values.flatMap Module.unresolvedReferences ∧
      report.unresolved.length = (linked.values.map Module.unresolvedCount).sum ∧
      report.resolved + report.unresolved.length =
        (modules.values.map Module.openCount).sum := by
  intro index linked report
  have length : report.unresolved.length = (linked.values.map Module.unresolvedCount).sum := by
    rw [unresolved_link, List.length_flatMap, funext Module.length_unresolvedReferences]
  refine ⟨?_, unresolved_link modules previous, length, ?_⟩
  · show List.Forall₂ _ modules.entries (List.map _ (List.map _ modules.entries))
    rw [List.map_map, List.forall₂_map_right_iff, List.forall₂_same]
    exact fun entry _ => ⟨rfl, entry.2.linked_link index⟩
  · rw [length, resolved_link, values_link, List.map_map, ← List.sum_map_add,
      ← funext (Module.resolved_link index)]
    rfl

end ModuleSet

end Declarations
