/-
This file proves how changing the references of a type, a declaration or a module goes
together with listing them: their number and order stay, two changes are one, a change
that alters none of the references alters nothing, and changes that keep every key do not
show once the resolutions are forgotten.
-/

import Declarations.Graph.Module
import Declarations.Snapshot.Entry
import Mathlib.Logic.Basic

namespace Declarations

/-- A reference of which only the key is kept. -/
def Reference.forget (reference : Reference) : Reference :=
  .pending reference.key

theorem Reference.forget_of_isPending {reference : Reference} (pending : reference.isPending) :
    reference.forget = reference := by
  rw [forget, Reference.pending, ← eq_of_beq pending]

namespace TypeExpr

/-! ### Types -/

section

variable (change : Reference → Reference)

mutual

theorem references_mapReferences : (type : TypeExpr) →
    references (mapReferences change type) = (references type).map change
  | .any | .absent | .literal _ | .unknown _ => rfl
  | .builtin _ arguments => referencesAll_mapReferencesAll arguments
  | .named reference arguments =>
    congrArg (change reference :: ·) (referencesAll_mapReferencesAll arguments)
  | .union members => referencesAll_mapReferencesAll members
  | .tuple items => referencesAll_mapReferencesAll items
  | .callable parameters result => by
    rw [mapReferences, references, references, List.map_append,
      referencesGiven_mapReferencesGiven parameters, references_mapReferences result]

theorem referencesAll_mapReferencesAll : (types : List TypeExpr) →
    referencesAll (mapReferencesAll change types) = (referencesAll types).map change
  | [] => rfl
  | first :: rest => by
    rw [mapReferencesAll, referencesAll, referencesAll, List.map_append,
      references_mapReferences first, referencesAll_mapReferencesAll rest]

theorem referencesGiven_mapReferencesGiven : (types : Option (List TypeExpr)) →
    referencesGiven (mapReferencesGiven change types) = (referencesGiven types).map change
  | none => rfl
  | some types => referencesAll_mapReferencesAll types

end

variable (other : Reference → Reference)

mutual

theorem mapReferences_mapReferences : (type : TypeExpr) →
    mapReferences change (mapReferences other type) =
      mapReferences (fun reference => change (other reference)) type
  | .any | .absent | .literal _ | .unknown _ => rfl
  | .builtin name arguments =>
    congrArg (TypeExpr.builtin name) (mapReferencesAll_mapReferencesAll arguments)
  | .named _ arguments =>
    congrArg (TypeExpr.named _) (mapReferencesAll_mapReferencesAll arguments)
  | .union members => congrArg TypeExpr.union (mapReferencesAll_mapReferencesAll members)
  | .tuple items => congrArg TypeExpr.tuple (mapReferencesAll_mapReferencesAll items)
  | .callable parameters result =>
    congrArg₂ TypeExpr.callable (mapReferencesGiven_mapReferencesGiven parameters)
      (mapReferences_mapReferences result)

theorem mapReferencesAll_mapReferencesAll : (types : List TypeExpr) →
    mapReferencesAll change (mapReferencesAll other types) =
      mapReferencesAll (fun reference => change (other reference)) types
  | [] => rfl
  | first :: rest =>
    congrArg₂ List.cons (mapReferences_mapReferences first)
      (mapReferencesAll_mapReferencesAll rest)

theorem mapReferencesGiven_mapReferencesGiven : (types : Option (List TypeExpr)) →
    mapReferencesGiven change (mapReferencesGiven other types) =
      mapReferencesGiven (fun reference => change (other reference)) types
  | none => rfl
  | some types => congrArg some (mapReferencesAll_mapReferencesAll types)

end

end

section

variable {change : Reference → Reference}

mutual

theorem mapReferences_of_fixed : (type : TypeExpr) →
    (∀ reference ∈ references type, change reference = reference) →
      mapReferences change type = type
  | .any, _ | .absent, _ | .literal _, _ | .unknown _, _ => rfl
  | .builtin name arguments, fixed =>
    congrArg (TypeExpr.builtin name) (mapReferencesAll_of_fixed arguments fixed)
  | .named reference arguments, fixed =>
    congrArg₂ TypeExpr.named (fixed reference List.mem_cons_self)
      (mapReferencesAll_of_fixed arguments fun inner member =>
        fixed inner (List.mem_cons_of_mem _ member))
  | .union members, fixed => congrArg TypeExpr.union (mapReferencesAll_of_fixed members fixed)
  | .tuple items, fixed => congrArg TypeExpr.tuple (mapReferencesAll_of_fixed items fixed)
  | .callable parameters result, fixed =>
    congrArg₂ TypeExpr.callable
      (mapReferencesGiven_of_fixed parameters fun inner member =>
        fixed inner (List.mem_append_left _ member))
      (mapReferences_of_fixed result fun inner member =>
        fixed inner (List.mem_append_right _ member))

theorem mapReferencesAll_of_fixed : (types : List TypeExpr) →
    (∀ reference ∈ referencesAll types, change reference = reference) →
      mapReferencesAll change types = types
  | [], _ => rfl
  | first :: rest, fixed =>
    congrArg₂ List.cons
      (mapReferences_of_fixed first fun inner member =>
        fixed inner (List.mem_append_left _ member))
      (mapReferencesAll_of_fixed rest fun inner member =>
        fixed inner (List.mem_append_right _ member))

theorem mapReferencesGiven_of_fixed : (types : Option (List TypeExpr)) →
    (∀ reference ∈ referencesGiven types, change reference = reference) →
      mapReferencesGiven change types = types
  | none, _ => rfl
  | some types, fixed => congrArg some (mapReferencesAll_of_fixed types fixed)

end

end

end TypeExpr

/-! ### Declarations -/

namespace DeclarationKind

theorem types_mapTypes (change : TypeExpr → TypeExpr) :
    (kind : DeclarationKind) → (kind.mapTypes change).types = kind.types.map change
  | .function _ => by
    simp only [mapTypes, types, List.map_append, List.filterMap_map, List.map_filterMap,
      Option.toList_map]
    rfl
  | .classDef _ => by simp [mapTypes, types, Option.toList_map]
  | .variable _ => by simp [mapTypes, types, Option.toList_map]
  | .typeAlias _ => rfl

theorem mapTypes_mapTypes (change other : TypeExpr → TypeExpr) :
    (kind : DeclarationKind) →
      (kind.mapTypes other).mapTypes change = kind.mapTypes fun type => change (other type)
  | .function _ => by simp [mapTypes, Function.comp_def]
  | .classDef _ => by simp [mapTypes, Function.comp_def]
  | .variable _ => by simp [mapTypes, Function.comp_def]
  | .typeAlias _ => rfl

theorem optionMap_of_fixed {change : TypeExpr → TypeExpr} {type : Option TypeExpr}
    (fixed : ∀ inner ∈ type.toList, change inner = inner) : type.map change = type := by
  cases type with
  | none => rfl
  | some type => exact congrArg some (fixed type List.mem_cons_self)

theorem mapTypes_of_fixed {change : TypeExpr → TypeExpr} :
    (kind : DeclarationKind) → (∀ type ∈ kind.types, change type = type) →
      kind.mapTypes change = kind
  | .function signature, fixed => by
    have parameter : ∀ parameter ∈ signature.parameters,
        { parameter with type := parameter.type.map change } = parameter := by
      intro parameter member
      rw [optionMap_of_fixed fun inner inside => fixed inner (List.mem_append_left _
        (List.mem_filterMap.2 ⟨parameter, member, Option.mem_toList.1 inside⟩))]
    rw [mapTypes, optionMap_of_fixed fun inner inside =>
      fixed inner (List.mem_append_right _ inside),
      (List.map_congr_left parameter).trans (List.map_id' _)]
  | .classDef heading, fixed => by
    rw [mapTypes, optionMap_of_fixed fun inner inside =>
      fixed inner (List.mem_append_right _ inside),
      (List.map_congr_left fun base member => fixed base (List.mem_append_left _ member)).trans
        (List.map_id' _)]
  | .variable info, fixed => by
    rw [mapTypes, optionMap_of_fixed fixed]
  | .typeAlias target, fixed => congrArg typeAlias (fixed target List.mem_cons_self)

variable (change other : Reference → Reference)

theorem references_mapReferences (kind : DeclarationKind) :
    (kind.mapReferences change).references = kind.references.map change := by
  rw [mapReferences, references, types_mapTypes, List.flatMap_map, references, List.map_flatMap]
  exact congrArg (List.flatMap · kind.types)
    (funext fun type => TypeExpr.references_mapReferences change type)

theorem mapReferences_mapReferences (kind : DeclarationKind) :
    (kind.mapReferences other).mapReferences change =
      kind.mapReferences fun reference => change (other reference) := by
  rw [mapReferences, mapReferences, mapTypes_mapTypes]
  exact congrArg (mapTypes · kind)
    (funext fun type => TypeExpr.mapReferences_mapReferences change other type)

variable {change}

theorem mapReferences_of_fixed {kind : DeclarationKind}
    (fixed : ∀ reference ∈ kind.references, change reference = reference) :
    kind.mapReferences change = kind :=
  mapTypes_of_fixed kind fun type member =>
    TypeExpr.mapReferences_of_fixed type fun reference inside =>
      fixed reference (List.mem_flatMap.2 ⟨type, member, inside⟩)

end DeclarationKind

/-! ### Modules -/

namespace Module

variable (change other : Reference → Reference)

theorem references_mapReferences (module : Module) :
    (module.mapReferences change).references =
      module.references.map fun (owner, reference) => (owner, change reference) := by
  simp only [references, mapReferences, List.map_append, List.map_map, List.map_flatMap,
    List.flatMap_map, DeclarationKind.references_mapReferences, Function.comp_def]

theorem mapReferences_mapReferences (module : Module) :
    (module.mapReferences other).mapReferences change =
      module.mapReferences fun reference => change (other reference) := by
  simp only [mapReferences, List.map_map, DeclarationKind.mapReferences_mapReferences,
    Function.comp_def]

variable {change}

theorem mapReferences_of_fixed {module : Module}
    (fixed : ∀ entry ∈ module.references, change entry.2 = entry.2) :
    module.mapReferences change = module := by
  have symbol : ∀ symbol ∈ module.imports,
      { symbol with target := change symbol.target } = symbol := by
    intro symbol member
    rw [fixed (module.name, symbol.target)
      (List.mem_append_left _ (List.mem_map.2 ⟨symbol, member, rfl⟩))]
  have declaration : ∀ declaration ∈ module.declarations,
      { declaration with kind := declaration.kind.mapReferences change } = declaration := by
    intro declaration member
    rw [DeclarationKind.mapReferences_of_fixed fun reference inside =>
      fixed (declaration.fullname, reference) (List.mem_append_right _
        (List.mem_flatMap.2 ⟨declaration, member, List.mem_map.2 ⟨reference, inside, rfl⟩⟩))]
  exact Module.ext rfl rfl rfl rfl ((List.map_congr_left symbol).trans (List.map_id' _)) rfl
    ((List.map_congr_left declaration).trans (List.map_id' _)) rfl rfl

end Module

end Declarations
