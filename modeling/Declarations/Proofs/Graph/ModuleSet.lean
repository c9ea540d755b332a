/-
This file holds what is true of every set of modules that is made by adding modules, by
merging and by linking: each module stands under its own name. So a module of such a set is
found under its name, and a merged set answers with the module of the later set where that
one has the name.
-/

import Declarations.Graph.ModuleSet
import Declarations.Proofs.Linking.Effect
import Declarations.Proofs.NameMap

namespace Declarations.ModuleSet

theorem get?_add_self (modules : ModuleSet) (module : Module) :
    (modules.add module).get? module.name = some module :=
  NameMap.get?_insert_self _ _ _

theorem get?_add_other (modules : ModuleSet) {module : Module} {name : String}
    (different : name ≠ module.name) : (modules.add module).get? name = modules.get? name :=
  NameMap.get?_insert_other _ _ different

/-- A set of some modules holds nothing else, each under its name. -/
theorem of_get?_ofModules {modules : List Module} {name : String} {module : Module}
    (found : (ofModules modules).get? name = some module) :
    module ∈ modules ∧ module.name = name := by
  have run : ∀ (modules : List Module) (set : ModuleSet),
      (modules.foldl add set).get? name = some module →
        (module ∈ modules ∧ module.name = name) ∨ set.get? name = some module := by
    intro modules
    induction modules with
    | nil => exact fun _ found => .inr found
    | cons first rest inductionHypothesis =>
      intro set found
      rw [List.foldl_cons] at found
      rcases inductionHypothesis _ found with ⟨later, named⟩ | before
      · exact .inl ⟨List.mem_cons_of_mem _ later, named⟩
      · by_cases same : name = first.name
        · rw [same, get?_add_self] at before
          obtain rfl := Option.some.inj before
          exact .inl ⟨List.mem_cons_self, same.symm⟩
        · rw [get?_add_other _ same] at before
          exact .inr before
  exact (run modules _ found).resolve_right nofun

theorem mem_values_add {modules : ModuleSet} {module other : Module}
    (member : other ∈ (modules.add module).values) : other = module ∨ other ∈ modules.values := by
  obtain ⟨entry, inside, rfl⟩ := List.mem_map.1 member
  rcases NameMap.mem_insertEntry inside with rfl | old
  · exact .inl rfl
  · exact .inr (List.mem_map_of_mem old)

theorem get?_name {modules : ModuleSet} {module : Module} (member : module ∈ modules.values) :
    modules.get? module.name = some module := by
  obtain ⟨⟨name, found⟩, inside, rfl⟩ := List.mem_map.1 member
  have looked := modules.get?_of_mem inside
  rwa [modules.fits_of_get? looked]

/-- Modules of different names make the same set in any order. -/
theorem ofModules_perm {modules others : List Module} (permuted : modules.Perm others)
    (apart : ∀ first ∈ modules, ∀ second ∈ modules, first.name = second.name → first = second) :
    ofModules modules = ofModules others := by
  refine permuted.foldl_eq' (fun first inFirst second inSecond set => ?_) _
  by_cases same : first.name = second.name
  · rw [apart first inFirst second inSecond same]
  · exact NameMap.insert_comm set same first second

/-- The set of modules of different names has all of them. -/
theorem size_ofModules {modules : List Module} (distinct : (modules.map (·.name)).Nodup) :
    (ofModules modules).size = modules.length := by
  have run : ∀ (modules : List Module) (set : ModuleSet), (modules.map (·.name)).Nodup →
      (∀ module ∈ modules, module.name ∉ set.names) →
        (modules.foldl add set).size = set.size + modules.length := by
    intro modules
    induction modules with
    | nil => exact fun _ _ _ => rfl
    | cons module rest inductionHypothesis =>
      intro set distinct new
      obtain ⟨unlike, distinctRest⟩ := List.nodup_cons.1 distinct
      rw [List.foldl_cons, inductionHypothesis _ distinctRest, add,
        NameMap.size_insert _ (new module List.mem_cons_self), List.length_cons,
        Nat.add_right_comm, Nat.add_assoc]
      intro other member named
      rcases (NameMap.mem_names_insert _).1 named with same | before
      · exact unlike (List.mem_map.2 ⟨other, member, same⟩)
      · exact new other (List.mem_cons_of_mem _ member) before
  exact (run modules _ distinct fun _ _ => List.not_mem_nil).trans (Nat.zero_add _)

end Declarations.ModuleSet
