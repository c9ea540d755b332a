/-
This file proves that lowering looks nothing up: every reference in the types it makes, in the
declarations it makes of them and in the table of imports is a key that was not looked up.
-/

import Declarations.Lowering.Module
import Declarations.Proofs.Graph.References
import Declarations.Proofs.Lowering.Imported

namespace Declarations

/-- Whether none of some references was looked up. -/
def AllPending (references : List Reference) : Prop :=
  ∀ reference ∈ references, reference.isPending

instance (references : List Reference) : Decidable (AllPending references) :=
  inferInstanceAs (Decidable (∀ reference ∈ references, reference.isPending))

theorem allPending_nil : AllPending [] :=
  fun _ member => nomatch member

theorem AllPending.append {first second : List Reference} (firstPending : AllPending first)
    (secondPending : AllPending second) : AllPending (first ++ second) := by
  intro reference member
  rcases List.mem_append.1 member with inFirst | inSecond
  · exact firstPending reference inFirst
  · exact secondPending reference inSecond

namespace TypeExpr

/-- Whether no reference in a type was looked up. -/
def Pending (type : TypeExpr) : Prop :=
  AllPending type.references

theorem mem_referencesAll {reference : Reference} {types : List TypeExpr} :
    reference ∈ referencesAll types ↔ ∃ type ∈ types, reference ∈ type.references := by
  induction types with
  | nil => simp [referencesAll]
  | cons first rest hypothesis => simp [referencesAll, hypothesis]

theorem allPending_referencesAll {types : List TypeExpr} :
    AllPending (referencesAll types) ↔ ∀ type ∈ types, type.Pending := by
  constructor
  · intro pending type member reference inside
    exact pending reference (mem_referencesAll.2 ⟨type, member, inside⟩)
  · intro pending reference member
    obtain ⟨type, inTypes, inside⟩ := mem_referencesAll.1 member
    exact pending type inTypes reference inside

end TypeExpr

namespace DeclarationKind

/-- Whether no reference in a declaration was looked up. -/
def Pending (kind : DeclarationKind) : Prop :=
  AllPending kind.references

theorem pending_of_types {kind : DeclarationKind} (types : ∀ type ∈ kind.types, type.Pending) :
    kind.Pending := by
  intro reference member
  obtain ⟨type, inKind, inside⟩ := List.mem_flatMap.1 member
  exact types type inKind reference inside

end DeclarationKind

namespace LoweringContext

open TypeExpr (allPending_referencesAll)
open DeclarationKind (pending_of_types)

/-! ### Unions -/

theorem pending_ofMembers {members : List TypeExpr} (pending : ∀ type ∈ members, type.Pending) :
    (ofMembers members).Pending := by
  unfold ofMembers
  split
  next type => exact pending type List.mem_cons_self
  next => exact allPending_referencesAll.2 pending

theorem mem_of_mem_withoutRepeats (types : List TypeExpr) :
    ∀ type ∈ withoutRepeats types, type ∈ types := by
  unfold withoutRepeats
  refine List.foldlRecOn (motive := fun kept => ∀ type ∈ kept, type ∈ types) types _ nofun ?_
  intro kept before first inTypes type member
  split at member
  · exact before type member
  · rcases List.mem_append.1 member with inKept | isFirst
    · exact before type inKept
    · exact List.mem_singleton.1 isFirst ▸ inTypes

theorem mem_of_mem_withoutAbsent {types : List TypeExpr} {type : TypeExpr}
    (member : type ∈ withoutAbsent types) : type ∈ types := by
  unfold withoutAbsent at member
  split at member
  · exact (List.mem_filter.1 member).1
  · exact member

theorem pending_of_mem_unionMembers {type member : TypeExpr} (pending : type.Pending)
    (inside : member ∈ unionMembers type) : member.Pending := by
  unfold unionMembers at inside
  split at inside
  next members => exact allPending_referencesAll.1 pending member inside
  next => exact List.mem_singleton.1 inside ▸ pending

theorem pending_union (strict : Bool) {types : List TypeExpr}
    (pending : ∀ type ∈ types, type.Pending) : (union strict types).Pending := by
  have members : ∀ type ∈ withoutRepeats (types.flatMap unionMembers), type.Pending := by
    intro type member
    obtain ⟨outer, inTypes, inside⟩ := List.mem_flatMap.1 (mem_of_mem_withoutRepeats _ type member)
    exact pending_of_mem_unionMembers (pending outer inTypes) inside
  unfold union
  refine pending_ofMembers fun type member => ?_
  split at member
  · exact members type member
  · exact members type (mem_of_mem_withoutAbsent member)

/-! ### Forms and hints -/

variable (context : LoweringContext)

theorem pending_bareForm (form : String) : (bareForm form).Pending := by
  unfold bareForm
  split <;> exact allPending_nil

theorem pending_nameType (name : String) : (context.nameType name).Pending := by
  unfold nameType
  split
  · exact allPending_nil
  · exact pending_bareForm _
  · exact allPending_nil
  · intro reference member
    obtain rfl := List.mem_singleton.1 member
    rfl

theorem pending_head (arguments : List TypeExpr) (pending : ∀ type ∈ arguments, type.Pending) :
    (arguments.head?.getD .any).Pending := by
  cases arguments with
  | nil => exact allPending_nil
  | cons first rest => exact pending first List.mem_cons_self

theorem pending_formType (form : String) {arguments : List TypeExpr}
    (pending : ∀ type ∈ arguments, type.Pending) :
    (context.formType form arguments).Pending := by
  unfold formType
  split
  · refine pending_union _ fun type member => ?_
    rcases List.mem_append.1 member with inside | last
    · exact pending type inside
    · exact List.mem_singleton.1 last ▸ allPending_nil
  · exact pending_union _ pending
  · exact allPending_referencesAll.2 pending
  · exact pending_head arguments pending
  · exact pending_head arguments pending
  · exact pending_head arguments pending
  · exact allPending_nil
  · exact allPending_nil
  · exact allPending_referencesAll.2 pending

mutual

theorem pending_typeOf : (hint : TypeHint) → (context.typeOf hint).Pending
  | .name name => pending_nameType context name
  | .subscript base arguments => by
    have inner := pending_typesOf arguments
    rw [typeOf]
    split
    · exact pending_callableType arguments
    · exact allPending_nil
    · exact pending_formType context _ inner
    · exact allPending_referencesAll.2 inner
    · exact allPending_referencesAll.2 inner
    · exact allPending_referencesAll.2 inner
    next key =>
      refine List.forall_mem_cons.2 ⟨rfl, allPending_referencesAll.2 inner⟩
  | .union members => pending_union _ (pending_typesOf members)
  | .absent | .ellipsis | .list _ | .literal _ | .other _ => allPending_nil
  | .quoted text => by
    rw [typeOf]
    split
    · exact pending_nameType context text
    · exact allPending_nil

theorem pending_typesOf : (hints : List TypeHint) →
    ∀ type ∈ context.typesOf hints, type.Pending
  | [] => fun _ member => nomatch member
  | hint :: rest => List.forall_mem_cons.2 ⟨pending_typeOf hint, pending_typesOf rest⟩

theorem pending_callableType (hints : List TypeHint) : (context.callableType hints).Pending := by
  unfold callableType
  split
  next result => exact pending_typeOf result
  next items result =>
    exact (allPending_referencesAll.2 (pending_typesOf items)).append (pending_typeOf result)
  next parameter result _ _ =>
    refine AllPending.append (allPending_referencesAll.2 ?_) (pending_typeOf result)
    exact List.forall_mem_cons.2 ⟨pending_typeOf parameter, fun _ member => nomatch member⟩
  next => exact allPending_nil

end

/-! ### Declarations -/

theorem pending_hint (hint : Option TypeHint) :
    ∀ type ∈ (hint.map context.typeOf).toList, type.Pending := by
  intro type member
  obtain ⟨inner, -, rfl⟩ := Option.map_eq_some_iff.1 (Option.mem_toList.1 member)
  exact pending_typeOf context inner

theorem pending_function (scope : String) (outline : FunctionOutline) :
    (context.function scope outline).kind.Pending := by
  refine pending_of_types fun type member => ?_
  rcases List.mem_append.1 member with inParameters | inResult
  · obtain ⟨parameter, isParameter, typed⟩ := List.mem_filterMap.1 inParameters
    obtain ⟨written, -, rfl⟩ := List.mem_map.1 isParameter
    exact pending_hint context written.hint type (Option.mem_toList.2 typed)
  · exact pending_hint context outline.returns type inResult

theorem pending_classHeading (scope : String) (outline : ClassOutline) :
    (context.classHeading scope outline).kind.Pending := by
  refine pending_of_types fun type member => ?_
  rcases List.mem_append.1 member with inBases | isMetaclass
  · obtain ⟨base, -, rfl⟩ := List.mem_map.1 inBases
    exact pending_typeOf context base
  · exact pending_hint context outline.metaclass? type isMetaclass

theorem pending_variableOf (value : Option String) : (hint : TypeHint) →
    ∀ type ∈ (context.variableOf value hint).type.toList, type.Pending
  | .name name => by
    rw [variableOf]
    split
    · exact nofun
    · exact nofun
    · exact pending_hint context (some (.name name))
  | .subscript base arguments => by
    have head : ∀ inner rest, arguments = inner :: rest →
        ∀ type ∈ (context.variableOf value inner).type.toList, type.Pending :=
      fun inner rest same => pending_variableOf value inner
    unfold variableOf
    split
    · exact head _ _ rfl
    · exact nofun
    · exact head _ _ rfl
    · exact nofun
    · exact pending_hint context (some _)
  | .union members => pending_hint context (some (.union members))
  | .absent => pending_hint context (some .absent)
  | .ellipsis => pending_hint context (some .ellipsis)
  | .quoted text => pending_hint context (some (.quoted text))
  | .list items => pending_hint context (some (.list items))
  | .literal text => pending_hint context (some (.literal text))
  | .other text => pending_hint context (some (.other text))

theorem pending_alias (target : TypeHint) :
    (DeclarationKind.typeAlias (context.typeOf target)).Pending := by
  refine pending_of_types fun type member => ?_
  obtain rfl := List.mem_singleton.1 member
  exact pending_typeOf context target

theorem pending_untyped (value : Option String) :
    (DeclarationKind.variable ⟨none, false, false, value⟩).Pending :=
  allPending_nil

theorem pending_assignment (isTop : Bool) (scope : String) (outline : AssignmentOutline) :
    (context.assignment isTop scope outline).kind.Pending := by
  unfold assignment
  dsimp only
  generalize outline.hint = hint
  split
  all_goals
    split
    · split
      · exact pending_alias context _
      · exact allPending_nil
    · split
      · exact pending_of_types (pending_variableOf context _ _)
      · split
        · exact pending_alias context _
        · exact pending_untyped _
      · exact pending_untyped _

theorem pending_typeAlias (scope name : String) (value : TypeHint) (line : Nat) :
    (context.typeAlias scope name value line).kind.Pending :=
  pending_alias context value

end LoweringContext

/-! ### Imports -/

namespace ImportBindings

/-- Whether no import in a table was looked up. -/
def Pending (table : List ImportedSymbol) : Prop :=
  ∀ symbol ∈ table, symbol.target.isPending

theorem pending_ofImports (current : String) (isPackage : Bool) (entries : List Import) :
    Pending (ofImports current isPackage entries).table := by
  intro symbol member
  obtain ⟨name, key, rfl, -⟩ := (within_ofImports current isPackage entries).table symbol member
  rfl

end ImportBindings

end Declarations
