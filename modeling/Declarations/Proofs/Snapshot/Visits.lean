/-
This file proves that the two ways to go through references, listing and visiting them, go
together, and that a visit which keeps the keys does not show in what is written. How far a
reference was resolved is not written, so the JSON of a type, of a declaration and of a module
stays as it is when references are changed but for their keys.
-/

import Declarations.Proofs.Graph.References
import Declarations.Proofs.Graph.Visiting
import Declarations.Proofs.Snapshot.Layout
import Declarations.Snapshot.Encoding
import Mathlib.Data.List.Basic

namespace Declarations

-- The references change, and their keys stay.
variable {change : Reference → Reference}

theorem forget_change (keeps : ∀ reference, (change reference).key = reference.key) :
    (fun reference => (change reference).forget) = Reference.forget :=
  funext fun reference => congrArg Reference.pending (keeps reference)

/-! ### Types -/

namespace TypeExpr

theorem forget_mapReferences (keeps : ∀ reference, (change reference).key = reference.key)
    (type : TypeExpr) :
    (type.mapReferences change).mapReferences Reference.forget =
      type.mapReferences Reference.forget := by
  rw [mapReferences_mapReferences, forget_change keeps]

mutual

theorem toJson_mapReferences (keeps : ∀ reference, (change reference).key = reference.key) :
    (type : TypeExpr) → toJson (mapReferences change type) = toJson type
  | .any | .absent | .literal _ | .unknown _ => rfl
  | .builtin _ arguments => by
    rw [mapReferences, toJson, toJson, toJsonAll_mapReferencesAll keeps arguments]
  | .named reference arguments => by
    rw [mapReferences, toJson, toJson, keeps reference, toJsonAll_mapReferencesAll keeps arguments]
  | .union members => by
    rw [mapReferences, toJson, toJson, toJsonAll_mapReferencesAll keeps members]
  | .tuple items => by
    rw [mapReferences, toJson, toJson, toJsonAll_mapReferencesAll keeps items]
  | .callable parameters result => by
    rw [mapReferences, toJson, toJson, toJsonGiven_mapReferencesGiven keeps parameters,
      toJson_mapReferences keeps result]

theorem toJsonAll_mapReferencesAll (keeps : ∀ reference, (change reference).key = reference.key) :
    (types : List TypeExpr) → toJsonAll (mapReferencesAll change types) = toJsonAll types
  | [] => rfl
  | first :: rest => by
    rw [mapReferencesAll, toJsonAll, toJsonAll, toJson_mapReferences keeps first,
      toJsonAll_mapReferencesAll keeps rest]

theorem toJsonGiven_mapReferencesGiven
    (keeps : ∀ reference, (change reference).key = reference.key) :
    (types : Option (List TypeExpr)) →
      toJsonGiven (mapReferencesGiven change types) = toJsonGiven types
  | none => rfl
  | some types => by
    rw [mapReferencesGiven, toJsonGiven, toJsonGiven, toJsonAll_mapReferencesAll keeps types]

end

end TypeExpr

/-! ### Declarations -/

namespace DeclarationKind

theorem ofOption_map {α β : Type} {encode : β → Json} {other : α → Json} {change : α → β}
    (same : ∀ value, encode (change value) = other value) (value : Option α) :
    Json.ofOption encode (value.map change) = Json.ofOption other value := by
  cases value with
  | none => rfl
  | some value => exact same value

theorem fields_mapTypes {change : TypeExpr → TypeExpr}
    (same : ∀ type, (change type).toJson = type.toJson) :
    (kind : DeclarationKind) → (kind.mapTypes change).fields = kind.fields
  | .function signature => by
    have parameter (parameter : Parameter) :
        Parameter.toJson { parameter with type := parameter.type.map change } =
          parameter.toJson := by
      rw [Parameter.toJson, ofOption_map same]
      rfl
    rw [mapTypes, fields, fields, ofOption_map same, List.map_map]
    exact congrArg (fun parameters => ("params", Json.list parameters) :: _)
      (List.map_congr_left fun item _ => parameter item)
  | .classDef heading => by
    rw [mapTypes, fields, fields, ofOption_map same, List.map_map]
    exact congrArg (fun bases => ("bases", Json.list bases) :: _)
      (List.map_congr_left fun base _ => same base)
  | .variable info => by
    rw [mapTypes, fields, fields, ofOption_map same]
  | .typeAlias target => by
    rw [mapTypes, fields, fields, same]

theorem entryTag_mapTypes (change : TypeExpr → TypeExpr) (kind : DeclarationKind) :
    (kind.mapTypes change).entryTag = kind.entryTag := by
  cases kind <;> rfl

variable (keeps : ∀ reference, (change reference).key = reference.key)
include keeps

theorem forget_mapReferences (kind : DeclarationKind) :
    (kind.mapReferences change).mapReferences Reference.forget =
      kind.mapReferences Reference.forget := by
  rw [mapReferences_mapReferences, forget_change keeps]

theorem fields_mapReferences (kind : DeclarationKind) :
    (kind.mapReferences change).fields = kind.fields :=
  fields_mapTypes (TypeExpr.toJson_mapReferences keeps) kind

end DeclarationKind

/-! ### Entries -/

namespace DeclarationEntry

theorem mapReferencesAll_eq (change : Reference → Reference) (entries : List DeclarationEntry) :
    mapReferencesAll change entries = entries.map (mapReferences change) := by
  induction entries with
  | nil => rfl
  | cons first rest hypothesis => rw [mapReferencesAll, hypothesis, List.map_cons]

theorem bodyFields_mapReferences (keeps : ∀ reference, (change reference).key = reference.key)
    (body : DeclarationBody) :
    bodyFields { body with kind := body.kind.mapReferences change } = bodyFields body := by
  rw [bodyFields, bodyFields, DeclarationKind.fields_mapReferences keeps]
  dsimp only
  rw [DeclarationKind.mapReferences, DeclarationKind.entryTag_mapTypes]

mutual

theorem toJson_mapReferences (keeps : ∀ reference, (change reference).key = reference.key) :
    (entry : DeclarationEntry) → (entry.mapReferences change).toJson = entry.toJson
  | .node body children => by
    rw [mapReferences, toJson, toJson, bodyFields_mapReferences keeps,
      toJsonAll_mapReferencesAll keeps children]

theorem toJsonAll_mapReferencesAll
    (keeps : ∀ reference, (change reference).key = reference.key) :
    (entries : List DeclarationEntry) →
      toJsonAll (mapReferencesAll change entries) = toJsonAll entries
  | [] => rfl
  | first :: rest => by
    rw [mapReferencesAll, toJsonAll, toJsonAll, toJson_mapReferences keeps first,
      toJsonAll_mapReferencesAll keeps rest]

end

end DeclarationEntry

theorem ModuleEntry.toJson_mapReferences
    (keeps : ∀ reference, (change reference).key = reference.key) (entry : ModuleEntry) :
    (entry.mapReferences change).toJson = entry.toJson := by
  have imports : (entry.imports.map fun symbol =>
      { symbol with target := change symbol.target }).map ImportedSymbol.toJson =
        entry.imports.map ImportedSymbol.toJson := by
    rw [List.map_map]
    refine List.map_congr_left fun symbol _ => ?_
    rw [Function.comp_apply, ImportedSymbol.toJson, keeps]
    rfl
  rw [toJson, toJson, mapReferences]
  dsimp only
  rw [imports, DeclarationEntry.toJsonAll_mapReferencesAll keeps]

/-! ### Modules -/

namespace Module

variable (keeps : ∀ reference, (change reference).key = reference.key)
include keeps

theorem forget_mapReferences (module : Module) :
    (module.mapReferences change).mapReferences Reference.forget =
      module.mapReferences Reference.forget := by
  rw [mapReferences_mapReferences, forget_change keeps]

omit keeps

/-- The tree below a declaration holds its references as they are. -/
theorem entryAt_mapReferences (change : Reference → Reference) (module : Module) (index : Nat) :
    (module.mapReferences change).entryAt index =
      (module.entryAt index).map (DeclarationEntry.mapReferences change) := by
  have length : (module.mapReferences change).declarations.length =
      module.declarations.length := List.length_map _
  induction index using Module.entryAt.induct module with
  | case1 index inside hypothesis =>
    have insideToo : index < (module.mapReferences change).declarations.length := length ▸ inside
    have here : (module.mapReferences change).declarations[index] =
        { module.declarations[index] with
          kind := module.declarations[index].kind.mapReferences change } :=
      List.getElem_map _
    rw [entryAt, entryAt, dif_pos inside, dif_pos insideToo]
    dsimp only
    rw [here, Option.map_some, DeclarationEntry.mapReferences, DeclarationEntry.mapReferencesAll_eq,
      List.map_filterMap]
    refine congrArg (fun children => some (DeclarationEntry.node _ children)) ?_
    refine List.filterMap_congr fun child _ => ?_
    split
    next later => exact hypothesis child later
    next => rfl
  | case2 index outside =>
    rw [entryAt, entryAt, dif_neg outside, dif_neg (length.symm ▸ outside)]
    rfl

theorem ofModule_mapReferences (change : Reference → Reference) (module : Module) :
    ModuleEntry.ofModule (module.mapReferences change) =
      (ModuleEntry.ofModule module).mapReferences change := by
  have entries : (module.mapReferences change).entryAt =
      fun index => (module.entryAt index).map (DeclarationEntry.mapReferences change) :=
    funext (entryAt_mapReferences change module)
  rw [ModuleEntry.ofModule, ModuleEntry.mapReferences, DeclarationEntry.mapReferencesAll_eq,
    ModuleEntry.ofModule, List.map_filterMap, entries]
  rfl

/-! ### Visits -/

/-- A visit of the references in a type, in a declaration or in a module meets those that are
listed, in this order and each with what it stands in. Afterwards the same are listed as the visit
left them. Where it keeps their keys, nothing but resolutions has changed, and the same is
written. -/
theorem visit_meets_references {σ : Type} {change : Reference → Reference}
    (keeps : ∀ reference, (change reference).key = reference.key) :
    (∀ (note : σ → Reference → σ) (type : TypeExpr) (state : σ),
      ∃ after, type.visitReferences (noting change note) state =
          (after, type.references.foldl note state) ∧
        after.references = type.references.map change ∧
        after.mapReferences Reference.forget = type.mapReferences Reference.forget ∧
        after.toJson = type.toJson) ∧
    (∀ (note : σ → Reference → σ) (kind : DeclarationKind) (state : σ),
      ∃ after, kind.visitReferences (noting change note) state =
          (after, kind.references.foldl note state) ∧
        after.references = kind.references.map change ∧
        after.mapReferences Reference.forget = kind.mapReferences Reference.forget ∧
        after.entryTag = kind.entryTag ∧ after.fields = kind.fields) ∧
    ∀ (note : σ → String × Reference → σ) (module : Module) (state : σ),
      ∃ after, module.visitReferences (notingOwner change note) state =
          (after, module.references.foldl note state) ∧
        after.references =
          module.references.map (fun (owner, reference) => (owner, change reference)) ∧
        after.mapReferences Reference.forget = module.mapReferences Reference.forget ∧
        (ModuleEntry.ofModule after).toJson = (ModuleEntry.ofModule module).toJson := by
  refine ⟨fun note type state => ?_, fun note kind state => ?_, fun note module state => ?_⟩
  · rw [TypeExpr.visitReferences_noting]
    exact ⟨_, rfl, TypeExpr.references_mapReferences change type,
      TypeExpr.forget_mapReferences keeps type, TypeExpr.toJson_mapReferences keeps type⟩
  · rw [DeclarationKind.visitReferences_noting]
    exact ⟨_, rfl, DeclarationKind.references_mapReferences change kind,
      DeclarationKind.forget_mapReferences keeps kind, DeclarationKind.entryTag_mapTypes _ kind,
      DeclarationKind.fields_mapReferences keeps kind⟩
  · rw [visitReferences_notingOwner]
    exact ⟨_, rfl, references_mapReferences change module, forget_mapReferences keeps module,
      ofModule_mapReferences change module ▸ ModuleEntry.toJson_mapReferences keeps _⟩

/-- A module that imports a class and whose only declaration derives from it is visited by one
that gives up on every reference and lists what it meets. -/
theorem visit_meets_references_shelf :
    let giveUp (reference : Reference) : Reference := { reference with resolution := .unresolved }
    let board : Reference := .pending "wood.Board"
    let oak : Reference := ⟨"wood.Oak", .resolved (.declaration "wood" 3)⟩
    let type : TypeExpr := .callable (some [.named board [.named oak []]]) (.named board [])
    let kind : DeclarationKind := .classDef ⟨[type], some (.named oak []), []⟩
    let module := { Module.skeleton "room" ⟨"room.py"⟩ with imports := [⟨"Board", board⟩] }.add none
      ⟨"Shelf", "room.Shelf", kind, none, none⟩
    let note (met : List (String × Reference)) (entry : String × Reference) := met ++ [entry]
    (∀ reference, (giveUp reference).key = reference.key) ∧
      type.references = [board, oak, board] ∧
      ∃ after, module.visitReferences (notingOwner giveUp note) [] =
          (after, [("room", board), ("room.Shelf", board), ("room.Shelf", oak),
            ("room.Shelf", board), ("room.Shelf", oak)]) ∧
        after.references = [("room", giveUp board), ("room.Shelf", giveUp board),
          ("room.Shelf", giveUp oak), ("room.Shelf", giveUp board),
          ("room.Shelf", giveUp oak)] ∧
        (ModuleEntry.ofModule after).toJson = (ModuleEntry.ofModule module).toJson := by
  intro giveUp board oak type kind module note
  have keeps : ∀ reference, (giveUp reference).key = reference.key := fun _ => rfl
  obtain ⟨after, visited, listed, -, written⟩ :=
    (visit_meets_references keeps).2.2 note module []
  exact ⟨keeps, rfl, after, visited, listed, written⟩

end Module

end Declarations
