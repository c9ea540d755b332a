/-
This file proves that keys are looked up alike however modules are split over sessions. Two
modules may meet under a name only where one of them imports something under it that the other
defines. Then it does not matter which of the two is added first, so every order of adding the
modules makes the same index, and with it every way to link some of them after the others.
-/

import Declarations.Proofs.Graph.ModuleSet
import Declarations.Proofs.Linking.Symbols
import Declarations.Proofs.NameMap

namespace Declarations

/-! ### Where modules may meet -/

namespace Module

/-- The names that a module defines: its own, and those of its declarations. -/
def definedNames (module : Module) : List String :=
  module.name :: module.declarations.map (·.fullname)

/-- The names under which a module imports something. -/
def importedNames (module : Module) : List String :=
  (module.imports.filter fun symbol => symbol.name != "*").map fun symbol =>
    Dotted.below module.name symbol.name

/-- What a module puts into an index stands under a name that it imports or defines. -/
theorem mem_names_of_mem_symbols {module : Module} {name : String} {symbol : GraphSymbol}
    (member : (name, symbol) ∈ module.symbols) :
    if symbol.isImported then name ∈ module.importedNames else name ∈ module.definedNames := by
  rw [symbols, List.cons_append, List.mem_cons, List.mem_append] at member
  rcases member with itself | imported | declared
  · cases itself
    exact List.mem_cons_self
  · obtain ⟨source, inside, same⟩ := List.mem_map.1 imported
    cases same
    exact List.mem_map.2 ⟨source, inside, rfl⟩
  · obtain ⟨⟨declaration, place⟩, inside, same⟩ := List.mem_map.1 declared
    cases same
    exact List.mem_cons_of_mem _ (List.mem_map_of_mem (List.fst_mem_of_mem_zipIdx inside))

/-- Whether each of several modules has a name of its own, no two define the same name, and no
two import under the same name. One may define the name under which another imports. -/
structure Separate (modules : List Module) : Prop where
  names : (modules.map (·.name)).Nodup
  definitions : ∀ first ∈ modules, ∀ second ∈ modules, ∀ name ∈ first.definedNames,
    name ∈ second.definedNames → first = second
  imports : ∀ first ∈ modules, ∀ second ∈ modules, ∀ name ∈ first.importedNames,
    name ∈ second.importedNames → first = second

end Module

namespace SymbolIndex

/-! ### Orders -/

section

variable {modules : List Module} (separate : Module.Separate modules)

include separate

/-- It does not matter which of two modules is added first. -/
theorem addModule_comm {first second : Module} (inFirst : first ∈ modules)
    (inSecond : second ∈ modules) (index : SymbolIndex) :
    (index.addModule first).addModule second = (index.addModule second).addModule first := by
  by_cases same : first = second
  · rw [same]
  refine NameMap.ext_get? fun name => ?_
  rw [get?_addModule, get?_addModule, get?_addModule, get?_addModule]
  refine GraphSymbol.stays_comm (fun one standsOne other standsOther alike => same ?_) _
  have named := Module.mem_names_of_mem_symbols (mem_of_standing standsOne)
  have alsoNamed := Module.mem_names_of_mem_symbols (mem_of_standing standsOther)
  rw [← alike] at alsoNamed
  split at named
  next imported =>
    rw [if_pos imported] at alsoNamed
    exact separate.imports first inFirst second inSecond name named alsoNamed
  next defined =>
    rw [if_neg defined] at alsoNamed
    exact separate.definitions first inFirst second inSecond name named alsoNamed

theorem foldl_addModule_perm {order : List Module} (reordered : order.Perm modules)
    (index : SymbolIndex) : order.foldl addModule index = modules.foldl addModule index := by
  refine reordered.foldl_eq' (fun first inFirst second inSecond index => ?_) index
  exact (addModule_comm separate (reordered.mem_iff.1 inFirst) (reordered.mem_iff.1 inSecond)
    index)

end

end SymbolIndex

/-! ### Splits -/

namespace ModuleSet

/-- Whether two sets have no name in common. -/
def Disjoint (first second : ModuleSet) : Prop :=
  ∀ name, first.contains name → ¬ second.contains name

variable {first second : ModuleSet}

theorem Disjoint.symm (disjoint : Disjoint first second) : Disjoint second first :=
  fun name inSecond inFirst => disjoint name inFirst inSecond

theorem disjoint_of_nodup
    (nodup : ((first.values ++ second.values).map (·.name)).Nodup) : Disjoint first second := by
  intro name inFirst inSecond
  obtain ⟨module, found⟩ := Option.isSome_iff_exists.1 inFirst
  obtain ⟨other, otherFound⟩ := Option.isSome_iff_exists.1 inSecond
  rw [List.map_append] at nodup
  refine List.disjoint_of_nodup_append nodup (a := name) ?_ ?_
  · exact List.mem_map.2 ⟨module, NameMap.mem_values_of_get? found,
      first.fits_of_get? found⟩
  · exact List.mem_map.2 ⟨other, NameMap.mem_values_of_get? otherFound,
      second.fits_of_get? otherFound⟩

end ModuleSet

namespace SymbolIndex

/-- Of sets without a common name all modules count. -/
theorem build_of_disjoint {modules previous : ModuleSet}
    (disjoint : ModuleSet.Disjoint modules previous) :
    build modules previous =
      (previous.values ++ modules.values).foldl addModule NameMap.empty := by
  have kept : (previous.values.filter fun module => !modules.contains module.name) =
      previous.values := by
    refine List.filter_eq_self.2 fun module member => ?_
    have found := ModuleSet.get?_name member
    rw [Bool.not_eq_true', Bool.eq_false_iff]
    exact fun named => disjoint module.name named (by rw [NameMap.contains, found]; rfl)
  rw [build, kept]

/-- Every order in which modules are added makes the same index, and so does every split of them
into modules that are linked and modules that were there before, and linking all of them at
once. -/
theorem build_split {modules : List Module} (separate : Module.Separate modules) :
    (∀ order : List Module, order.Perm modules →
      order.foldl addModule NameMap.empty = modules.foldl addModule NameMap.empty) ∧
    ∀ first second : ModuleSet, (first.values ++ second.values).Perm modules →
      build first second = modules.foldl addModule NameMap.empty ∧
      build second first = modules.foldl addModule NameMap.empty ∧
      build (first.merge second) NameMap.empty = modules.foldl addModule NameMap.empty := by
  have anyOrder (order : List Module) (reordered : order.Perm modules) :
      order.foldl addModule NameMap.empty = modules.foldl addModule NameMap.empty :=
    foldl_addModule_perm separate reordered NameMap.empty
  refine ⟨anyOrder, fun first second split => ?_⟩
  have nodup : ((first.values ++ second.values).map (·.name)).Nodup :=
    (split.map _).nodup_iff.2 separate.names
  have disjoint := ModuleSet.disjoint_of_nodup nodup
  have swapped : (second.values ++ first.values).Perm modules := List.perm_append_comm.trans split
  refine ⟨?_, ?_, ?_⟩
  · rw [build_of_disjoint disjoint]
    exact anyOrder _ swapped
  · rw [build_of_disjoint disjoint.symm]
    exact anyOrder _ split
  · show (first.merge second).values.foldl addModule NameMap.empty = _
    exact anyOrder _ ((NameMap.values_merge disjoint).trans split)

/-- A package that imports its own part under the name of the part, the part, and a module that
imports from both; the part was linked in an earlier session. -/
theorem build_split_package :
    let variableBody : DeclarationBody :=
      ⟨"width", "book.page.width", .variable ⟨none, false, false, none⟩, none, none⟩
    let package := { Module.skeleton "book" ⟨"book/__init__.py"⟩ with
      imports := [⟨"page", .pending "book.page"⟩] }
    let part := (Module.skeleton "book.page" ⟨"book/page.py"⟩).add none variableBody
    let reader := { Module.skeleton "reader" ⟨"reader.py"⟩ with
      imports := [⟨"book", .pending "book"⟩, ⟨"breadth", .pending "book.page.width"⟩] }
    let modules := [package, part, reader]
    let first := ModuleSet.ofModules [reader, package]
    let second := ModuleSet.ofModules [part]
    Module.Separate modules ∧ (first.values ++ second.values).Perm modules ∧
      build first second = modules.foldl addModule NameMap.empty ∧
      build second first = modules.foldl addModule NameMap.empty ∧
      build (first.merge second) NameMap.empty = modules.foldl addModule NameMap.empty := by
  intro variableBody package part reader modules first second
  have separate : Module.Separate modules := ⟨by decide, by decide, by decide⟩
  have split : (first.values ++ second.values).Perm modules := by decide
  exact ⟨separate, split, (build_split separate).2 first second split⟩

end SymbolIndex

end Declarations
