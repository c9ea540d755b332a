/-
This file relates the three ways to reach the references of a type, a declaration or a
module: listing them, changing them, and visiting them with effects. A visit that changes
each reference by itself and notes it in a state changes what `mapReferences` changes, and
notes exactly what `references` lists, in the same order. Changing references keeps their
number and order, so what is listed after a change is what was listed before, changed.
-/

import Declarations.Graph.Module

namespace Declarations

section Noting

variable {σ : Type}

/-- A visit that changes a value by itself and notes it in a state. -/
def noting {α β : Type} (change : α → β) (note : σ → α → σ) (value : α) : StateM σ β := do
  modify fun state => note state value
  return change value

theorem mapM_noting {α β : Type} (change : α → β) (note : σ → α → σ) (items : List α) :
    items.mapM (noting change note) =
      noting (List.map change) (fun state items => items.foldl note state) items := by
  induction items with
  | nil => rfl
  | cons item rest hypothesis =>
    rw [List.mapM_cons, hypothesis]
    rfl

theorem optionMapM_noting {α β : Type} (change : α → β) (note : σ → α → σ) (item : Option α) :
    item.mapM (noting change note) =
      noting (Option.map change) (fun state item => item.toList.foldl note state) item := by
  cases item <;> rfl

end Noting

namespace TypeExpr

/-! ### Types -/

section

variable {σ : Type} (change : Reference → Reference) (note : σ → Reference → σ)

mutual

theorem visitReferences_noting : (type : TypeExpr) →
    visitReferences (noting change note) type =
      noting (mapReferences change) (fun state type => (references type).foldl note state) type
  | .any | .absent | .literal _ | .unknown _ => rfl
  | .builtin _ arguments => by
    rw [visitReferences, visitReferencesAll_noting arguments]
    rfl
  | .named _ arguments => by
    rw [visitReferences, visitReferencesAll_noting arguments]
    rfl
  | .union members => by
    rw [visitReferences, visitReferencesAll_noting members]
    rfl
  | .tuple items => by
    rw [visitReferences, visitReferencesAll_noting items]
    rfl
  | .callable parameters result => by
    rw [visitReferences, visitReferencesGiven_noting parameters, visitReferences_noting result]
    exact funext fun state => congrArg (Prod.mk _) List.foldl_append.symm

theorem visitReferencesAll_noting : (types : List TypeExpr) →
    visitReferencesAll (noting change note) types =
      noting (mapReferencesAll change)
        (fun state types => (referencesAll types).foldl note state) types
  | [] => rfl
  | first :: rest => by
    rw [visitReferencesAll, visitReferences_noting first, visitReferencesAll_noting rest]
    exact funext fun state => congrArg (Prod.mk _) List.foldl_append.symm

theorem visitReferencesGiven_noting : (types : Option (List TypeExpr)) →
    visitReferencesGiven (noting change note) types =
      noting (mapReferencesGiven change)
        (fun state types => (referencesGiven types).foldl note state) types
  | none => rfl
  | some types => by
    rw [visitReferencesGiven, visitReferencesAll_noting types]
    rfl

end

end

end TypeExpr

/-! ### Declarations -/

namespace DeclarationKind

variable {σ : Type}

theorem foldl_toList_filterMap {α β : Type} (pick : α → Option β) (note : σ → β → σ)
    (items : List α) (state : σ) :
    items.foldl (fun state item => (pick item).toList.foldl note state) state =
      (items.filterMap pick).foldl note state := by
  rw [List.foldl_filterMap]
  refine congrArg (fun step => items.foldl step state) (funext fun state => funext fun item => ?_)
  cases pick item <;> rfl

theorem visitTypes_noting (change : TypeExpr → TypeExpr) (note : σ → TypeExpr → σ) :
    (kind : DeclarationKind) →
      visitTypes (noting change note) kind =
        noting (mapTypes change) (fun state kind => kind.types.foldl note state) kind
  | .function signature => by
    have parameter : (fun parameter : Parameter => do
        let type ← parameter.type.mapM (noting change note)
        return { parameter with type := type }) =
        noting (fun parameter => { parameter with type := parameter.type.map change })
          fun state parameter => parameter.type.toList.foldl note state :=
      funext fun parameter => by
        rw [optionMapM_noting]
        rfl
    rw [visitTypes, parameter, mapM_noting, optionMapM_noting]
    refine funext fun state => congrArg (Prod.mk _) ?_
    show signature.result.toList.foldl note (signature.parameters.foldl _ state) = _
    rw [foldl_toList_filterMap]
    exact List.foldl_append.symm
  | .classDef heading => by
    rw [visitTypes, mapM_noting, optionMapM_noting]
    exact funext fun state => congrArg (Prod.mk _) List.foldl_append.symm
  | .variable info => by
    rw [visitTypes, optionMapM_noting]
    rfl
  | .typeAlias target => rfl

variable (change : Reference → Reference) (note : σ → Reference → σ)

theorem visitReferences_noting (kind : DeclarationKind) :
    visitReferences (noting change note) kind =
      noting (mapReferences change) (fun state kind => kind.references.foldl note state) kind := by
  rw [visitReferences, funext (TypeExpr.visitReferences_noting change note), visitTypes_noting]
  refine funext fun state => congrArg (Prod.mk _) ?_
  exact List.foldl_flatMap.symm

end DeclarationKind

/-! ### Modules -/

/-- Putting back the kinds that were made from declarations changes each declaration's kind. -/
theorem Declaration.withKinds_map (change : Declaration → DeclarationKind)
    (declarations : List Declaration) :
    withKinds declarations (declarations.map change) =
      declarations.map fun declaration => { declaration with kind := change declaration } := by
  induction declarations with
  | nil => rfl
  | cons declaration rest hypothesis =>
    rw [List.map_cons, withKinds, hypothesis]
    rfl

namespace Module

variable {σ : Type} (change : Reference → Reference) (note : σ → String × Reference → σ)

/-- A visit of a module that changes each reference by itself and notes it together with what
it stands in. -/
def notingOwner (owner : String) : Reference → StateM σ Reference :=
  noting change fun state reference => note state (owner, reference)

/-- Such a visit changes what `mapReferences` changes, and notes what `references` lists. -/
theorem visitReferences_notingOwner (module : Module) :
    visitReferences (notingOwner change note) module =
      noting (mapReferences change) (fun state module => module.references.foldl note state)
        module := by
  have symbol : (fun symbol : ImportedSymbol => do
      let target ← notingOwner change note module.name symbol.target
      return { symbol with target := target }) =
      noting (fun symbol => { symbol with target := change symbol.target })
        fun state symbol => note state (module.name, symbol.target) := rfl
  have declaration : (fun declaration : Declaration =>
      declaration.kind.visitReferences (notingOwner change note declaration.fullname)) =
      noting (fun declaration => declaration.kind.mapReferences change)
        fun state declaration => (declaration.kind.references.map fun reference =>
          (declaration.fullname, reference)).foldl note state := by
    refine funext fun declaration => ?_
    rw [notingOwner, DeclarationKind.visitReferences_noting]
    exact funext fun state => congrArg (Prod.mk _) List.foldl_map.symm
  rw [visitReferences, symbol, declaration, mapM_noting, mapM_noting]
  refine funext fun state => Prod.ext (Module.ext rfl rfl rfl rfl rfl rfl ?_ rfl rfl) ?_
  · exact Declaration.withKinds_map _ _
  · show module.declarations.foldl _ (module.imports.foldl _ state) =
      module.references.foldl note state
    rw [references, List.foldl_append, List.foldl_map, List.foldl_flatMap]

end Module

end Declarations
