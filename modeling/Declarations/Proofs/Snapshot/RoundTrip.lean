/-
This file proves that linked modules which are written to a snapshot and loaded again are the
same modules. The snapshot holds an entry for each module in the order of their names; every
entry is read back as the module was before it was linked, and linking these modules gives
what it gave the first time, with the same report.
-/

import Declarations.Proofs.Graph.ModuleSet
import Declarations.Proofs.Linking.Relinking
import Declarations.Proofs.Lowering.Fresh
import Declarations.Proofs.Snapshot.Codec
import Declarations.Proofs.Snapshot.Malformed
import Declarations.Snapshot.Load

namespace Declarations

/-! ### One module -/

namespace Module

theorem PreOrder.link {module : Module} (ordered : module.PreOrder) (index : SymbolIndex) :
    (module.link index).1.PreOrder := by
  rw [link_eq]
  exact ordered.mapReferences (Reference.settle index)

end Module

/-- A module that was written as an entry is read back without the resolutions. -/
theorem Module.ofEntry_ofModule {module : Module} (ordered : module.PreOrder) :
    Module.ofEntry module.name (ModuleEntry.ofModule module).toJson.sorted = .ok module.reset := by
  have fits : ModuleEntry.currentVersion < Nat.pow 2 32 := by decide
  have read : ModuleEntry.ofJson (ModuleEntry.ofModule module).toJson.sorted = _ :=
    ModuleEntry.ofJson_toJson .ascending fits
  have made := ModuleEntry.toModule_forget_ofModule ordered
  have named : ((ModuleEntry.ofModule module).mapReferences Reference.forget).name = module.name :=
    rfl
  rw [ofEntry, read]
  dsimp only
  rw [named, if_neg (fun different => different rfl), made]

/-! ### All modules -/

namespace Snapshot

/-- The snapshot of modules holds the entry of each under its name. -/
theorem ofModules_eq (modules : ModuleSet) :
    ofModules modules = modules.map fun module => (ModuleEntry.ofModule module).toJson.sorted := by
  rw [← NameMap.foldl_insert_eq_map, ofModules, NameMap.values, List.foldl_map]
  refine List.foldl_ext _ _ _ fun snapshot entry member => ?_
  rw [addModule, modules.fits entry member]

/-- The entry that was made of a module is read back. -/
theorem outcome_ofModules {modules : ModuleSet}
    (ordered : ∀ module ∈ modules.values, module.PreOrder) (name : String) :
    (ofModules modules).outcome name =
      ((modules.get? name).map fun module => .ok module.reset).getD
        (.error (.notInSnapshot name)) := by
  rw [outcome, ofModules_eq, NameMap.get?_map]
  cases found : modules.get? name with
  | none => rfl
  | some module =>
    have named : module.name = name := modules.fits_of_get? found
    have read := Module.ofEntry_ofModule (ordered module (NameMap.mem_values_of_get? found))
    rw [named] at read
    exact read

/-- Entries that are all read make a set of modules, and no failure. -/
theorem instantiate_ofModules {modules : ModuleSet}
    (ordered : ∀ module ∈ modules.values, module.PreOrder) :
    (ofModules modules).instantiate = ⟨modules.reset, []⟩ := by
  have made : (ofModules modules).instantiate.modules = modules.reset := by
    refine NameMap.ext_get? fun name => ?_
    rw [get?_instantiate, outcome_ofModules ordered, ModuleSet.get?_reset]
    cases modules.get? name <;> rfl
  have clean : (ofModules modules).instantiate.failures = [] := by
    rw [failures_instantiate, List.filterMap_eq_nil_iff]
    intro name member
    rw [ofModules_eq, NameMap.names_map, NameMap.mem_names_iff, NameMap.contains] at member
    obtain ⟨module, found⟩ := Option.isSome_iff_exists.1 member
    rw [failure?, outcome_ofModules ordered, found]
    rfl
  rw [← made, ← clean]

/-- Loading linked modules that were written to a snapshot gives the same modules, and the same
report of what is unresolved. -/
theorem load_ofModules_link (modules : ModuleSet)
    (fresh : ∀ module ∈ modules.values, module.Fresh) :
    (ofModules (modules.link NameMap.empty).1).load NameMap.empty =
      ⟨(modules.link NameMap.empty).1, [], (modules.link NameMap.empty).2.unresolved⟩ := by
  have ordered : ∀ module ∈ (modules.link NameMap.empty).1.values, module.PreOrder := by
    rw [ModuleSet.values_link]
    intro module member
    obtain ⟨before, earlier, rfl⟩ := List.mem_map.1 member
    exact (fresh before earlier).ordered.link _
  have same : (modules.link NameMap.empty).1.reset = modules := by
    rw [ModuleSet.reset_link]
    exact NameMap.alter_of_fixed fun module member => (fresh module member).reset_eq
  rw [load, instantiate_ofModules ordered]
  dsimp only
  rw [same]

/-- A class with a method that takes an instance of it, and a variable beside it. -/
theorem load_ofModules_link_nested :
    let order := DeclarationEntry.node
      ⟨"Order", "shop.Order", .classDef ⟨[], none, []⟩, some "One order.", none⟩
      [.node ⟨"join", "shop.Order.join", .function
        ⟨[⟨"other", .positional, some (.toKey "shop.Order"), none⟩], none, false, [], false, false,
          false, false⟩, none, some ⟨2, 3⟩⟩ []]
    let opened := DeclarationEntry.node
      ⟨"opened", "shop.opened", .variable ⟨some (.toKey "shop.Gone"), false, false, none⟩, none,
        none⟩ []
    let modules := ModuleSet.add NameMap.empty
      ((Module.skeleton "shop" ⟨"shop.py"⟩).extend none [order, opened])
    (∀ module ∈ modules.values, module.Fresh) ∧
      (ofModules (modules.link NameMap.empty).1).load NameMap.empty =
        ⟨(modules.link NameMap.empty).1, [], (modules.link NameMap.empty).2.unresolved⟩ := by
  intro order opened modules
  have fresh : ∀ module ∈ modules.values, module.Fresh := by
    intro module member
    obtain rfl := List.mem_singleton.1 member
    exact Module.Grown.fresh ⟨[order, opened], rfl, by decide⟩ rfl rfl rfl nofun
  exact ⟨fresh, load_ofModules_link modules fresh⟩

end Snapshot

end Declarations
