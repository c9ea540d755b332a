/-
This file proves what happens when modules are linked more than once. An index is made from the
names of modules, the keys that they import and the fullnames of what they declare, so it is the
same whether these modules were linked before or not. Linking with an index and then with one
that answers all that the first answers is linking with the second at once. In particular,
linking again with the same index changes nothing, resolves nothing, and reports the same.
-/

import Declarations.Proofs.Linking.Effect
import Declarations.Proofs.Linking.Symbols
import Declarations.Proofs.NameMap
import Declarations.Proofs.Snapshot.Layout

namespace Declarations

/-! ### What an index is made from -/

namespace Module

theorem symbols_mapReferences {change : Reference → Reference}
    (keeps : ∀ reference, (change reference).key = reference.key) (module : Module) :
    (module.mapReferences change).symbols = module.symbols := by
  simp only [symbols, mapReferences, List.filter_map, List.map_map, List.zipIdx_map,
    Function.comp_def, keeps]
  rfl

theorem symbols_reset (module : Module) : module.reset.symbols = module.symbols :=
  module.symbols_mapReferences fun reference => (rfl : reference.forget.key = reference.key)

theorem reset_link (index : SymbolIndex) (module : Module) :
    (module.link index).1.reset = module.reset := by
  have rest := (module.linked_link index).rest
  rw [reset, reset, ← rest]

end Module

namespace ModuleSet

/-- Modules without what looking their references up added to them. -/
def reset (modules : ModuleSet) : ModuleSet :=
  modules.alter Module.reset fun _ _ named => named

theorem get?_reset (modules : ModuleSet) (name : String) :
    modules.reset.get? name = (modules.get? name).map Module.reset :=
  NameMap.get?_alter modules name

theorem values_reset (modules : ModuleSet) :
    modules.reset.values = modules.values.map Module.reset :=
  NameMap.values_alter modules

theorem reset_merge (modules others : ModuleSet) :
    reset (modules.merge others) = modules.reset.merge others.reset :=
  NameMap.alter_merge modules others

theorem reset_link (modules previous : ModuleSet) :
    (modules.link previous).1.reset = modules.reset := by
  refine NameMap.ext_get? fun name => ?_
  rw [get?_reset, get?_link, get?_reset, Option.map_map]
  exact congrArg (Option.map · (modules.get? name)) (funext (Module.reset_link _))

end ModuleSet

namespace SymbolIndex

theorem addModule_reset (index : SymbolIndex) (module : Module) :
    index.addModule module.reset = index.addModule module := by
  rw [addModule_eq, addModule_eq, Module.symbols_reset]

theorem build_reset (modules previous : ModuleSet) :
    build modules.reset previous.reset = build modules previous := by
  have named (name : String) : modules.reset.contains name = modules.contains name := by
    rw [NameMap.contains, ModuleSet.get?_reset, Option.isSome_map]
    rfl
  rw [build, ModuleSet.values_reset, ModuleSet.values_reset, List.filter_map, ← List.map_append,
    List.foldl_map, funext fun index => funext (addModule_reset index)]
  simp only [Function.comp_def, named]
  rfl

/-- Modules that are the same apart from what looking their references up added to them make
the same index. -/
theorem build_congr {modules others previous earlier : ModuleSet}
    (same : modules.reset = others.reset) (samePrevious : previous.reset = earlier.reset) :
    build modules previous = build others earlier := by
  rw [← build_reset modules, same, samePrevious, build_reset]

theorem build_link (modules previous others : ModuleSet) :
    build (modules.link others).1 previous = build modules previous :=
  build_congr (modules.reset_link others) rfl

end SymbolIndex

theorem ModuleSet.link_congr (modules : ModuleSet) {previous earlier : ModuleSet}
    (same : previous.reset = earlier.reset) : modules.link previous = modules.link earlier := by
  rw [link, link, SymbolIndex.build_congr rfl same]

/-! ### Linking with an index that answers more -/

/-- Whether an index answers all that another answers. -/
def SymbolIndex.Extends (larger index : SymbolIndex) : Prop :=
  ∀ key target, index.lookup key = some target → larger.lookup key = some target

theorem SymbolIndex.Extends.refl (index : SymbolIndex) : index.Extends index :=
  fun _ _ found => found

section

variable {index larger : SymbolIndex} (extension : larger.Extends index)

include extension

theorem Reference.settle_settle (reference : Reference) :
    (reference.settle index).settle larger = reference.settle larger := by
  by_cases resolved : reference.isResolved
  · rw [(reference.settled_settle index).kept resolved]
  · cases looked : index.lookup reference.key with
    | none =>
      have unresolved : reference.settle index = ⟨reference.key, .unresolved⟩ := by
        rw [settle, if_neg resolved, looked]
      have opened : ¬ (Reference.mk reference.key .unresolved).isResolved := nofun
      rw [unresolved, settle, settle, if_neg opened, if_neg resolved]
    | some target =>
      have found : reference.settle index = ⟨reference.key, .resolved target⟩ := by
        rw [settle, if_neg resolved, looked]
      have closed : (Reference.mk reference.key (.resolved target)).isResolved := rfl
      rw [found, settle, settle, if_pos closed, if_neg resolved, extension _ _ looked]

/-- Linking a module with an index and then with one that answers more is linking it with the
second. -/
theorem Module.link_link (module : Module) :
    ((module.link index).1.link larger).1 = (module.link larger).1 := by
  rw [link_eq, link_eq, link_eq]
  dsimp only
  have twice := module.mapReferences_mapReferences (Reference.settle larger)
    (Reference.settle index)
  rw [funext (Reference.settle_settle extension)] at twice
  exact congrArg (fun settled => { settled with state := LoadState.resolved }) twice

end

namespace ModuleSet

theorem link_link {modules previous later : ModuleSet}
    (extension : (SymbolIndex.build modules later).Extends (SymbolIndex.build modules previous)) :
    ((modules.link previous).1.link later).1 = (modules.link later).1 := by
  refine NameMap.ext_get? fun name => ?_
  rw [get?_link, get?_link, get?_link, SymbolIndex.build_link, Option.map_map]
  exact congrArg (Option.map · (modules.get? name)) (funext (Module.link_link extension))

end ModuleSet

/-! ### Linking again -/

namespace Module

theorem openCount_of_looked {module : Module} (looked : module.pendingCount = 0) :
    module.openCount = module.unresolvedCount := by
  have none_pending := List.filter_eq_nil_iff.1 (List.length_eq_zero_iff.1 looked)
  rw [openCount, unresolvedCount, ← List.countP_eq_length_filter]
  refine List.countP_congr fun entry member => ?_
  obtain ⟨owner, key, resolution⟩ := entry
  cases resolution with
  | pending => exact absurd rfl (none_pending _ member)
  | resolved target => simp [Reference.isResolved, Reference.isUnresolved, Reference.target?]
  | unresolved => simp [Reference.isResolved, Reference.isUnresolved, Reference.target?]

/-- Linking a module again with the same index resolves nothing. -/
theorem resolved_link_link (index : SymbolIndex) (module : Module) :
    ((module.link index).1.link index).2.resolved = 0 := by
  have counted := resolved_link index (module.link index).1
  rw [link_link (.refl index), openCount_of_looked (module.linked_link index).looked] at counted
  omega

end Module

/-- Linking modules again changes none of them, resolves nothing, and reports the same
references as unresolved. -/
theorem ModuleSet.link_link_same (modules previous : ModuleSet) :
    (modules.link previous).1.link previous =
      ((modules.link previous).1, ⟨0, (modules.link previous).2.unresolved⟩) := by
  have unchanged := link_link (SymbolIndex.Extends.refl (SymbolIndex.build modules previous))
  have unresolved : ((modules.link previous).1.link previous).2.unresolved =
      (modules.link previous).2.unresolved := by
    rw [unresolved_link, unchanged, ← unresolved_link]
  have resolved : ((modules.link previous).1.link previous).2.resolved = 0 := by
    rw [resolved_link, SymbolIndex.build_link, values_link, List.map_map]
    refine List.sum_eq_zero fun count member => ?_
    obtain ⟨module, -, rfl⟩ := List.mem_map.1 member
    exact module.resolved_link_link _
  exact Prod.ext unchanged (congrArg₂ LinkReport.mk resolved unresolved)

end Declarations
