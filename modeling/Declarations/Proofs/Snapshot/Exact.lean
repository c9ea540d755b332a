/-
This file proves that the entries of a snapshot and their JSON say the same. An entry whose
references were not looked up is read back as it was, and what is read from any JSON value is
such an entry. So after an entry was read once, writing and reading it changes nothing more. An
entry of the right tag and version is also the entry of the module that is made from it.
-/

import Declarations.Proofs.Json.Shapes
import Declarations.Proofs.Lowering.Fresh
import Declarations.Proofs.Snapshot.Codec

namespace Declarations

open Json (Shape ShapeError Standing)
open Json.Shape (Yields yields_ok yields_error yields_any yields_list yields_optional yields_tag
  yields_fill yields_record yields_require)

/-! ### Types -/

theorem TypeExpr.mapReferences_forget {type : TypeExpr} (pending : type.Pending) :
    type.mapReferences Reference.forget = type :=
  mapReferences_of_fixed type fun _ member => Reference.forget_of_isPending (pending _ member)

namespace TypeDraft

/-- Whether no reference in the types of a draft was looked up. -/
structure Pending (draft : TypeDraft) : Prop where
  arguments : ∀ type ∈ draft.arguments, type.Pending
  items : ∀ types ∈ draft.items, ∀ type ∈ types, type.Pending
  parameters : ∀ types ∈ draft.parameters, ∀ type ∈ types, type.Pending
  result : ∀ type ∈ draft.result, type.Pending

theorem pending_empty : Pending {} :=
  ⟨fun _ member => (nomatch member), fun _ member => (nomatch member),
    fun _ member => (nomatch member), fun _ member => (nomatch member)⟩

theorem yields_put {draft : TypeDraft} (pending : draft.Pending) (field : String) (value : Json)
    {one : Unit → Except ShapeError TypeExpr} {many : Unit → Except ShapeError (List TypeExpr)}
    (oneYields : Yields TypeExpr.Pending (one ()))
    (manyYields : Yields (fun types => ∀ type ∈ types, type.Pending) (many ())) :
    Yields Pending (draft.put field value one many) := by
  unfold put
  split
  · exact (yields_any _).bind fun _ _ => yields_ok { pending with }
  · exact manyYields.bind fun _ read => yields_ok { pending with arguments := read }
  · exact (yields_any _).bind fun _ _ => yields_ok { pending with }
  · refine manyYields.bind fun _ read => yields_ok { pending with items := ?_ }
    rintro _ ⟨⟩
    exact read
  · exact (yields_optional (fun _ => manyYields) value).bind fun _ read =>
      yields_ok { pending with parameters := read }
  · refine oneYields.bind fun _ read => yields_ok { pending with result := ?_ }
    rintro _ ⟨⟩
    exact read
  · exact (yields_any _).bind fun _ _ => yields_ok { pending with }
  · exact (yields_any _).bind fun _ _ => yields_ok { pending with }
  · exact yields_ok pending

theorem yields_fill {tag : TypeTag} {draft : TypeDraft} (pending : draft.Pending) (field : String)
    (value : Json) {one : Unit → Except ShapeError TypeExpr}
    {many : Unit → Except ShapeError (List TypeExpr)} (oneYields : Yields TypeExpr.Pending (one ()))
    (manyYields : Yields (fun types => ∀ type ∈ types, type.Pending) (many ())) :
    Yields Pending (draft.fill tag field value one many) := by
  unfold fill
  split
  · exact yields_put pending field value oneYields manyYields
  · exact yields_ok pending

theorem yields_finish (tag : TypeTag) {draft : Shape.Draft TypeDraft}
    (pending : draft.found.Pending) : Yields TypeExpr.Pending (finish tag draft) := by
  have many {types : List TypeExpr} (each : ∀ type ∈ types, type.Pending) :=
    TypeExpr.allPending_referencesAll.2 each
  cases tag with
  | any | absent => exact yields_ok allPending_nil
  | builtin => exact (yields_any _).bind fun _ _ => yields_ok (many pending.arguments)
  | named =>
    refine (yields_any _).bind fun _ _ => yields_ok ?_
    exact List.forall_mem_cons.2 ⟨rfl, many pending.arguments⟩
  | union => exact (yields_require pending.items).bind fun _ items => yields_ok (many items)
  | tuple => exact (yields_require pending.items).bind fun _ items => yields_ok (many items)
  | callable =>
    refine (yields_require pending.result).bind fun result resultPending => yields_ok ?_
    refine AllPending.append ?_ resultPending
    cases given : draft.found.parameters with
    | none => exact allPending_nil
    | some types => exact many (pending.parameters types given)
  | literal | unknown => exact (yields_any _).bind fun _ _ => yields_ok allPending_nil

end TypeDraft

namespace TypeExpr

mutual

/-- No reference in a type that was read was looked up. -/
theorem yields_ofJson (standing : Standing) : (value : Json) →
    Yields Pending (ofJson standing value)
  | .object fields => by
    rw [ofJson]
    refine (yields_any _).bind fun tag _ => (yields_any _).bind fun _ _ => ?_
    exact (yields_ofFields tag fields _ TypeDraft.pending_empty).bind fun _ found =>
      TypeDraft.yields_finish tag found
  | .list [] => by
    rw [ofJson]
    exact yields_error _
  | .list (first :: items) => by
    rw [ofJson]
    refine (yields_any _).bind fun tag _ => ?_
    refine (yields_ofItems tag _ items _ TypeDraft.pending_empty).bind fun _ found => ?_
    dsimp only
    split
    · exact yields_error _
    · exact TypeDraft.yields_finish tag found
  | .null | .bool _ | .integer _ | .decimal _ | .text _ => by
    rw [ofJson]
    · exact yields_error _
    all_goals exact nofun

theorem yields_ofJsonAll : (value : Json) →
    Yields (fun types => ∀ type ∈ types, type.Pending) (ofJsonAll value)
  | .list items => by
    rw [ofJsonAll]
    exact yields_ofJsonEach items
  | .null | .bool _ | .integer _ | .decimal _ | .text _ | .object _ => by
    rw [ofJsonAll]
    · exact yields_error _
    all_goals exact nofun

theorem yields_ofJsonEach : (values : List Json) →
    Yields (fun types => ∀ type ∈ types, type.Pending) (ofJsonEach values)
  | [] => by
    rw [ofJsonEach]
    exact yields_ok fun _ member => nomatch member
  | first :: rest => by
    rw [ofJsonEach]
    exact (yields_ofJson .aside first).bind fun _ here =>
      (yields_ofJsonEach rest).bind fun _ others =>
        yields_ok (List.forall_mem_cons.2 ⟨here, others⟩)

theorem yields_ofFields (tag : TypeTag) : (fields : List (String × Json)) → (draft : TypeDraft) →
    draft.Pending → Yields TypeDraft.Pending (ofFields tag draft fields)
  | [], draft, pending => by
    rw [ofFields]
    exact yields_ok pending
  | (field, value) :: rest, draft, pending => by
    rw [ofFields]
    exact (TypeDraft.yields_fill pending field value (yields_ofJson .aside value)
      (yields_ofJsonAll value)).bind fun _ filled => yields_ofFields tag rest _ filled

theorem yields_ofItems (tag : TypeTag) : (fields : List String) → (values : List Json) →
    (draft : TypeDraft) → draft.Pending → Yields TypeDraft.Pending (ofItems tag draft fields values)
  | field :: fields, value :: rest, draft, pending => by
    rw [ofItems]
    exact (TypeDraft.yields_fill pending field value (yields_ofJson .aside value)
      (yields_ofJsonAll value)).bind fun _ filled => yields_ofItems tag fields rest _ filled
  | [], values, draft, pending => by
    rw [ofItems]
    · exact yields_ok pending
    · exact nofun
  | _ :: _, [], draft, pending => by
    rw [ofItems]
    · exact yields_ok pending
    · exact nofun

end

theorem yields_optional (value : Json) :
    Yields (fun given => ∀ type ∈ given, type.Pending)
      (Shape.optional (ofJson .aside) value) :=
  Json.Shape.yields_optional (yields_ofJson .aside) value

end TypeExpr

/-! ### Declarations -/

/-- Whether no reference in the type of a parameter was looked up. -/
def Parameter.Pending (parameter : Parameter) : Prop :=
  ∀ type ∈ parameter.type, type.Pending

theorem Parameter.yields_ofJson (value : Json) : Yields Pending (ofJson value) := by
  have step : ∀ (draft : ParameterDraft) field value, (∀ type ∈ draft.type, type.Pending) →
      Yields (fun draft : ParameterDraft => ∀ type ∈ draft.type, type.Pending)
        (draft.fill field value) := by
    intro draft field value pending
    unfold ParameterDraft.fill
    split
    · exact (yields_any _).bind fun _ _ => yields_ok pending
    · exact (yields_any _).bind fun _ _ => yields_ok pending
    · exact (TypeExpr.yields_optional value).bind fun _ read => yields_ok read
    · exact (yields_any _).bind fun _ _ => yields_ok pending
    · exact yields_ok pending
  have empty : ∀ type ∈ ({} : ParameterDraft).type, type.Pending := fun _ member => nomatch member
  unfold ofJson
  exact (yields_record step _ _ _ empty value).bind fun _ found =>
    (yields_any _).bind fun _ _ => (yields_any _).bind fun _ _ => yields_ok found

namespace KindDraft

/-- Whether no reference in the types of a draft was looked up. -/
structure Pending (draft : KindDraft) : Prop where
  parameters : ∀ parameters ∈ draft.parameters, ∀ parameter ∈ parameters, parameter.Pending
  result : ∀ type ∈ draft.result, type.Pending
  bases : ∀ bases ∈ draft.bases, ∀ base ∈ bases, base.Pending
  metaclass : ∀ type ∈ draft.metaclass, type.Pending
  type : ∀ type ∈ draft.type, type.Pending
  target : ∀ type ∈ draft.target, type.Pending

theorem pending_empty : Pending {} :=
  ⟨fun _ member => (nomatch member), fun _ member => (nomatch member),
    fun _ member => (nomatch member), fun _ member => (nomatch member),
    fun _ member => (nomatch member), fun _ member => (nomatch member)⟩

theorem yields_fillFunction (draft : KindDraft) (field : String) (value : Json)
    (pending : draft.Pending) : Yields Pending (draft.fillFunction field value) := by
  unfold fillFunction
  split
  · refine (yields_list Parameter.yields_ofJson value).bind fun _ read =>
      yields_ok { pending with parameters := ?_ }
    rintro _ ⟨⟩
    exact read
  · exact (TypeExpr.yields_optional value).bind fun _ read =>
      yields_ok { pending with result := read }
  all_goals first
    | exact (yields_any _).bind fun _ _ => yields_ok { pending with }
    | exact yields_ok pending

theorem yields_fillClass (draft : KindDraft) (field : String) (value : Json)
    (pending : draft.Pending) : Yields Pending (draft.fillClass field value) := by
  unfold fillClass
  split
  · refine (yields_list (TypeExpr.yields_ofJson .aside) value).bind fun _ read =>
      yields_ok { pending with bases := ?_ }
    rintro _ ⟨⟩
    exact read
  · exact (TypeExpr.yields_optional value).bind fun _ read =>
      yields_ok { pending with metaclass := read }
  · exact (yields_any _).bind fun _ _ => yields_ok { pending with }
  · exact yields_ok pending

theorem yields_fillVariable (draft : KindDraft) (field : String) (value : Json)
    (pending : draft.Pending) : Yields Pending (draft.fillVariable field value) := by
  unfold fillVariable
  split
  · exact (TypeExpr.yields_optional value).bind fun _ read =>
      yields_ok { pending with type := read }
  all_goals first
    | exact (yields_any _).bind fun _ _ => yields_ok { pending with }
    | exact yields_ok pending

theorem yields_fillAlias (draft : KindDraft) (field : String) (value : Json)
    (pending : draft.Pending) : Yields Pending (draft.fillAlias field value) := by
  unfold fillAlias
  split
  · refine (TypeExpr.yields_ofJson .aside value).bind fun _ read =>
      yields_ok { pending with target := ?_ }
    rintro _ ⟨⟩
    exact read
  · exact yields_ok pending

theorem yields_read {fill : KindDraft → String → Shape KindDraft}
    (step : ∀ draft field value, draft.Pending → Yields Pending (fill draft field value))
    (known : List String) (fields : List (String × Json)) :
    Yields (fun draft => draft.found.Pending) (read known fill fields) :=
  (yields_any _).bind fun _ _ =>
    (yields_fill step fields pending_empty).bind fun _ found => yields_ok found

end KindDraft

namespace DeclarationKind

theorem yields_functionOf (fields : List (String × Json)) :
    Yields Pending (functionOf fields) := by
  refine (KindDraft.yields_read KindDraft.yields_fillFunction _ fields).bind fun draft found => ?_
  refine (yields_require found.parameters).bind fun parameters each => ?_
  refine yields_ok (pending_of_types fun type member => ?_)
  rcases List.mem_append.1 member with inParameters | isResult
  · obtain ⟨parameter, inside, itsType⟩ := List.mem_filterMap.1 inParameters
    exact each parameter inside type itsType
  · exact found.result type (Option.mem_toList.1 isResult)

theorem yields_classOf (fields : List (String × Json)) : Yields Pending (classOf fields) := by
  refine (KindDraft.yields_read KindDraft.yields_fillClass _ fields).bind fun draft found => ?_
  refine (yields_require found.bases).bind fun bases each => ?_
  refine yields_ok (pending_of_types fun type member => ?_)
  rcases List.mem_append.1 member with isBase | isMetaclass
  · exact each type isBase
  · exact found.metaclass type (Option.mem_toList.1 isMetaclass)

theorem yields_variableOf (fields : List (String × Json)) :
    Yields Pending (variableOf fields) := by
  refine (KindDraft.yields_read KindDraft.yields_fillVariable _ fields).bind fun draft found => ?_
  exact yields_ok (pending_of_types fun type member => found.type type (Option.mem_toList.1 member))

theorem yields_aliasOf (fields : List (String × Json)) : Yields Pending (aliasOf fields) := by
  refine (KindDraft.yields_read KindDraft.yields_fillAlias _ fields).bind fun draft found => ?_
  refine (yields_require found.target).bind fun target pending => ?_
  refine yields_ok (pending_of_types fun type member => ?_)
  exact List.mem_singleton.1 member ▸ pending

theorem yields_ofFields (fields : List (String × Json)) : Yields Pending (ofFields fields) := by
  have readers : ∀ reader ∈ readers.map (·.2), ∀ fields, Yields Pending (reader fields) :=
    List.forall_mem_cons.2 ⟨yields_functionOf, List.forall_mem_cons.2 ⟨yields_classOf,
      List.forall_mem_cons.2 ⟨yields_variableOf, List.forall_mem_singleton.2 yields_aliasOf⟩⟩⟩
  have tagged : Yields (· ∈ DeclarationKind.readers.map (·.2))
      (Shape.tagOf .aside DeclarationKind.readers fields) := by
    refine (yields_any _).bind fun _ _ => ?_
    split
    · exact yields_tag _ _ _
    · exact yields_error _
  exact tagged.bind fun reader member => readers reader member fields

end DeclarationKind

/-! ### Entries -/

namespace DeclarationEntry

/-- Whether no reference in an entry was looked up. -/
def Pending (entry : DeclarationEntry) : Prop :=
  AllPending entry.references

/-- Whether no reference in some entries was looked up. -/
def PendingAll (entries : List DeclarationEntry) : Prop :=
  AllPending (referencesAll entries)

section

variable {change : Reference → Reference}

mutual

theorem mapReferences_of_fixed : (entry : DeclarationEntry) →
    (∀ reference ∈ entry.references, change reference = reference) →
      entry.mapReferences change = entry
  | .node body children, fixed => by
    rw [mapReferences, DeclarationKind.mapReferences_of_fixed fun reference member =>
        fixed reference (List.mem_append_left _ member),
      mapReferencesAll_of_fixed children fun reference member =>
        fixed reference (List.mem_append_right _ member)]

theorem mapReferencesAll_of_fixed : (entries : List DeclarationEntry) →
    (∀ reference ∈ referencesAll entries, change reference = reference) →
      mapReferencesAll change entries = entries
  | [], _ => rfl
  | first :: rest, fixed =>
    congrArg₂ List.cons
      (mapReferences_of_fixed first fun reference member =>
        fixed reference (List.mem_append_left _ member))
      (mapReferencesAll_of_fixed rest fun reference member =>
        fixed reference (List.mem_append_right _ member))

end

end

theorem mapReferences_forget {entry : DeclarationEntry} (pending : entry.Pending) :
    entry.mapReferences Reference.forget = entry :=
  mapReferences_of_fixed entry fun _ member => Reference.forget_of_isPending (pending _ member)

theorem mapReferencesAll_forget {entries : List DeclarationEntry} (pending : PendingAll entries) :
    mapReferencesAll Reference.forget entries = entries :=
  mapReferencesAll_of_fixed entries fun _ member =>
    Reference.forget_of_isPending (pending _ member)

theorem yields_fill {draft : EntryDraft} (pending : PendingAll draft.children) (field : String)
    (value : Json) {many : Unit → Except ShapeError (List DeclarationEntry)}
    (manyYields : Yields PendingAll (many ())) :
    Yields (fun draft => PendingAll draft.children) (draft.fill field value many) := by
  unfold EntryDraft.fill
  split
  · exact (yields_any _).bind fun _ _ => yields_ok pending
  · exact (yields_any _).bind fun _ _ => yields_ok pending
  · exact (yields_any _).bind fun _ _ => yields_ok pending
  · exact (yields_any _).bind fun _ _ => yields_ok pending
  · exact manyYields.bind fun _ read => yields_ok read
  · exact yields_ok pending

theorem yields_ofDraft {draft : EntryDraft} (pending : PendingAll draft.children)
    (fields : List (String × Json)) : Yields Pending (ofDraft draft fields) :=
  (yields_any _).bind fun _ _ => (yields_any _).bind fun _ _ =>
    (DeclarationKind.yields_ofFields fields).bind fun _ kind => yields_ok (kind.append pending)

mutual

/-- No reference in an entry that was read was looked up. -/
theorem yields_ofJson : (value : Json) → Yields Pending (ofJson value)
  | .object fields => by
    rw [ofJson]
    exact (yields_any _).bind fun _ _ =>
      (yields_ofFields fields {} allPending_nil).bind fun _ found => yields_ofDraft found fields
  | .null | .bool _ | .integer _ | .decimal _ | .text _ | .list _ => by
    rw [ofJson]
    · exact yields_error _
    all_goals exact nofun

theorem yields_ofJsonAll : (value : Json) → Yields PendingAll (ofJsonAll value)
  | .list items => by
    rw [ofJsonAll]
    exact yields_ofJsonEach items
  | .null | .bool _ | .integer _ | .decimal _ | .text _ | .object _ => by
    rw [ofJsonAll]
    · exact yields_error _
    all_goals exact nofun

theorem yields_ofJsonEach : (values : List Json) → Yields PendingAll (ofJsonEach values)
  | [] => by
    rw [ofJsonEach]
    exact yields_ok allPending_nil
  | first :: rest => by
    rw [ofJsonEach]
    exact (yields_ofJson first).bind fun _ here =>
      (yields_ofJsonEach rest).bind fun _ others => yields_ok (AllPending.append here others)

theorem yields_ofFields : (fields : List (String × Json)) → (draft : EntryDraft) →
    PendingAll draft.children →
      Yields (fun draft => PendingAll draft.children) (ofFields draft fields)
  | [], draft, pending => by
    rw [ofFields]
    exact yields_ok pending
  | (field, value) :: rest, draft, pending => by
    rw [ofFields]
    exact (yields_fill pending field value (yields_ofJsonAll value)).bind fun _ filled =>
      yields_ofFields rest _ filled

end

end DeclarationEntry

/-! ### Modules -/

theorem ImportedSymbol.yields_ofJson (value : Json) :
    Yields (fun symbol => symbol.target.isPending) (ofJson value) := by
  unfold ofJson
  exact (yields_any _).bind fun _ _ => (yields_any _).bind fun _ _ =>
    (yields_any _).bind fun _ _ => yields_ok rfl

namespace ModuleDraft

/-- Whether no reference in a draft was looked up, and its version is a number of 32 bits. -/
structure Pending (draft : ModuleDraft) : Prop where
  version : ∀ version ∈ draft.version, version < Nat.pow 2 32
  imports : ∀ symbol ∈ draft.imports, symbol.target.isPending
  definitions : DeclarationEntry.PendingAll draft.definitions

theorem pending_empty : Pending {} :=
  ⟨fun _ member => (nomatch member), fun _ member => (nomatch member), allPending_nil⟩

theorem yields_natural (bits : Nat) (type : String) (value : Json) :
    Yields (· < Nat.pow 2 bits) (Shape.natural bits type value) := by
  unfold Shape.natural
  split
  · split
    next fits => exact yields_ok (Int.toNat_lt fits.1 |>.2 fits.2)
    next => exact yields_error _
  · exact yields_error _

theorem yields_fill (draft : ModuleDraft) (field : String) (value : Json)
    (pending : draft.Pending) : Yields Pending (draft.fill field value) := by
  unfold fill
  split
  · exact (yields_any _).bind fun _ _ => yields_ok { pending with }
  · refine (yields_natural 32 _ value).bind fun _ fits => yields_ok { pending with version := ?_ }
    rintro _ ⟨⟩
    exact fits
  · exact (yields_any _).bind fun _ _ => yields_ok { pending with }
  · exact (yields_any _).bind fun _ _ => yields_ok { pending with }
  · exact (yields_any _).bind fun _ _ => yields_ok { pending with }
  · exact (yields_any _).bind fun _ _ => yields_ok { pending with }
  · exact (yields_list ImportedSymbol.yields_ofJson value).bind fun _ read =>
      yields_ok { pending with imports := read }
  · exact (DeclarationEntry.yields_ofJsonAll value).bind fun _ read =>
      yields_ok { pending with definitions := read }
  · exact yields_ok pending

end ModuleDraft

namespace ModuleEntry

/-- Whether no reference in an entry was looked up, and its version is a number of 32 bits. -/
structure Pending (entry : ModuleEntry) : Prop where
  version : entry.version < Nat.pow 2 32
  imports : ∀ symbol ∈ entry.imports, symbol.target.isPending
  definitions : DeclarationEntry.PendingAll entry.definitions

theorem Pending.imports_forget {entry : ModuleEntry} (pending : entry.Pending) :
    entry.imports.map (fun symbol => { symbol with target := symbol.target.forget }) =
      entry.imports := by
  refine (List.map_congr_left fun symbol member => ?_).trans (List.map_id' _)
  rw [Reference.forget_of_isPending (pending.imports symbol member)]

theorem mapReferences_forget {entry : ModuleEntry} (pending : entry.Pending) :
    entry.mapReferences Reference.forget = entry := by
  rw [mapReferences, pending.imports_forget,
    DeclarationEntry.mapReferencesAll_forget pending.definitions]

/-- No reference in an entry that was read was looked up. -/
theorem yields_ofJson (value : Json) : Yields Pending (ofJson value) := by
  unfold ofJson
  refine (yields_record ModuleDraft.yields_fill _ _ _ ModuleDraft.pending_empty value).bind
    fun _ found => ?_
  refine (yields_any _).bind fun _ _ => ?_
  refine (yields_require found.version).bind fun _ fits => ?_
  refine (yields_any _).bind fun _ _ => (yields_any _).bind fun _ _ => ?_
  exact yields_ok ⟨fits, found.imports, found.definitions⟩

/-- An entry of the right tag and version is the entry of the module that is made from it. -/
theorem ofModule_of_toModule {entry : ModuleEntry} {module : Module}
    (made : entry.toModule = .ok module) : ofModule module = entry := by
  obtain ⟨tag, version, rfl⟩ := toModule_eq_ok_iff.1 made
  obtain ⟨roots, declarations⟩ := @Module.preOrder_extend entry.opened rfl rfl entry.definitions
  have definitions := definitions_ofModule roots declarations
  rw [ofModule] at definitions ⊢
  dsimp only at definitions ⊢
  rw [definitions]
  obtain ⟨entryTag, entryVersion, name, path, docstring, isPackage, imports, forest⟩ := entry
  obtain rfl : entryTag = moduleTag := tag
  obtain rfl : entryVersion = currentVersion := version
  rfl

end ModuleEntry

/-! ### Writing and reading -/

/-- Whether reading gives back what was written, for all that has a property and for all that was
read from any value. -/
structure Json.Exact {α : Type} (good : α → Prop) (write : α → Json)
    (read : Json → Except ShapeError α) : Prop where
  back : ∀ item, good item → read (write item) = .ok item
  again : ∀ value item, read value = .ok item → read (write item) = .ok item

theorem Json.Exact.of_yields {α : Type} {good : α → Prop} {write : α → Json}
    {read : Json → Except ShapeError α} (back : ∀ item, good item → read (write item) = .ok item)
    (yields : ∀ value, Yields good (read value)) : Json.Exact good write read :=
  ⟨back, fun value item found => back item (yields value item found)⟩

/-- Entries, declarations and types are read back from their JSON as they were, and an entry of
the right tag and version comes back from the module that is made from it. -/
theorem ModuleEntry.exact_and_ofModule_of_toModule :
    Json.Exact Pending (fun entry => entry.toJson.sorted) ofJson ∧
      (∀ entry : ModuleEntry, entry.tag = moduleTag → entry.version = currentVersion →
        ∃ module, entry.toModule = .ok module ∧ ofModule module = entry) ∧
      Json.Exact DeclarationEntry.Pending (fun entry => entry.toJson.sorted)
        DeclarationEntry.ofJson ∧
      ∀ standing, Json.Exact TypeExpr.Pending (fun type => type.toJson.sorted)
        (TypeExpr.ofJson standing) := by
  refine ⟨.of_yields (fun entry pending => ?_) yields_ofJson, fun entry tag version => ?_,
    .of_yields (fun entry pending => ?_) DeclarationEntry.yields_ofJson,
    fun standing => .of_yields (fun type pending => ?_) (TypeExpr.yields_ofJson standing)⟩
  · exact (ofJson_toJson .ascending pending.version).trans
      (congrArg Except.ok (mapReferences_forget pending))
  · have made := toModule_eq_ok_iff.2 ⟨tag, version, rfl⟩
    exact ⟨_, made, ofModule_of_toModule made⟩
  · exact (DeclarationEntry.ofJson_toJson .ascending entry).trans
      (congrArg Except.ok (DeclarationEntry.mapReferences_forget pending))
  · exact (TypeExpr.ofJson_toJson .ascending standing type).trans
      (congrArg Except.ok (TypeExpr.mapReferences_forget pending))

/-- A class with a method in it whose parameter takes lists of instances of the class. -/
theorem ModuleEntry.exact_and_ofModule_of_toModule_shelf :
    let type : TypeExpr := .builtin "list" [.toKey "room.Shelf"]
    let method : DeclarationEntry := .node ⟨"join", "room.Shelf.join", .function
      ⟨[⟨"others", .star, some type, none⟩], some .absent, true, ["final"], false, false, false,
        false⟩, some "Joins shelves.", some ⟨2, 3⟩⟩ []
    let shelf : DeclarationEntry := .node ⟨"Shelf", "room.Shelf",
      .classDef ⟨[.toKey "wood.Board"], none, []⟩, none, none⟩ [method]
    let entry : ModuleEntry := ⟨"Module", 1, "room", ⟨"room.py"⟩, none, true,
      [⟨"Board", .pending "wood.Board"⟩], [shelf]⟩
    entry.Pending ∧ ofJson entry.toJson.sorted = .ok entry ∧
      (∃ module, entry.toModule = .ok module ∧ ofModule module = entry) ∧
      DeclarationEntry.ofJson shelf.toJson.sorted = .ok shelf ∧
      TypeExpr.ofJson .direct type.toJson.sorted = .ok type ∧
      TypeExpr.ofJson .aside (.list [.text "Builtin", .text "int", .list []]) =
        .ok (.plain "int") ∧
      TypeExpr.ofJson .aside (TypeExpr.plain "int").toJson.sorted = .ok (.plain "int") := by
  intro type method shelf entry
  have definitions : AllPending (DeclarationEntry.referencesAll [shelf]) := by decide
  have pending : entry.Pending := ⟨by decide, by decide, definitions⟩
  have shelfPending : AllPending shelf.references := by decide
  have typePending : AllPending type.references := by decide
  obtain ⟨exact, made, entries, types⟩ := exact_and_ofModule_of_toModule
  have listed : TypeExpr.ofJson .aside (.list [.text "Builtin", .text "int", .list []]) =
      .ok (.plain "int") := rfl
  exact ⟨pending, exact.back entry pending, made entry rfl rfl,
    entries.back shelf shelfPending, (types .direct).back type typePending, listed,
    (types .aside).again _ _ listed⟩

end Declarations
