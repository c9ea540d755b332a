/-
This file says which names lowering takes types from, and proves that the references of a
declaration are made from exactly those of them that are bound to a key. Building a union
drops repeated members, but never the last with a reference.
-/

import Declarations.Proofs.Lowering.Pending
import Declarations.Proofs.Lowering.Sites
import Declarations.Proofs.Lowering.Unions
import Mathlib.Data.List.Forall2

namespace Declarations

namespace LoweringContext

/-! ### References in unions -/

section

variable {reference : Reference}

theorem mem_references_ofMembers {members : List TypeExpr} :
    reference ∈ (ofMembers members).references ↔ ∃ member ∈ members,
      reference ∈ member.references := by
  unfold ofMembers
  split
  · simp
  · exact TypeExpr.mem_referencesAll

theorem mem_references_unionMembers {type : TypeExpr} :
    (∃ member ∈ unionMembers type, reference ∈ member.references) ↔
      reference ∈ type.references := by
  unfold unionMembers
  split
  · exact TypeExpr.mem_referencesAll.symm
  · simp

theorem mem_withoutRepeats {types : List TypeExpr} {type : TypeExpr} :
    type ∈ withoutRepeats types ↔ type ∈ types := by
  rw [withoutRepeats_eq, List.mem_eraseDups]

/-- Only what has no reference is left out of a union. -/
theorem mem_withoutAbsent_of_references {members : List TypeExpr} {member : TypeExpr}
    (inside : member ∈ members) (refers : reference ∈ member.references) :
    member ∈ withoutAbsent members := by
  have present : member ≠ .absent := by
    rintro rfl
    cases refers
  unfold withoutAbsent
  split
  · exact List.mem_filter.2 ⟨inside, bne_iff_ne.2 present⟩
  · exact inside

theorem mem_references_union {strict : Bool} {types : List TypeExpr} :
    reference ∈ (union strict types).references ↔ ∃ type ∈ types,
      reference ∈ type.references := by
  have members : (∃ member ∈ withoutRepeats (types.flatMap unionMembers),
      reference ∈ member.references) ↔ ∃ type ∈ types, reference ∈ type.references := by
    constructor
    · rintro ⟨member, inside, refers⟩
      obtain ⟨type, among, within⟩ := List.mem_flatMap.1 (mem_withoutRepeats.1 inside)
      exact ⟨type, among, mem_references_unionMembers.1 ⟨member, within, refers⟩⟩
    · rintro ⟨type, among, refers⟩
      obtain ⟨member, within, inside⟩ := mem_references_unionMembers.2 refers
      exact ⟨member, mem_withoutRepeats.2 (List.mem_flatMap_of_mem among within), inside⟩
  unfold union
  rw [mem_references_ofMembers, ← members]
  split
  · rfl
  · constructor
    · rintro ⟨member, inside, refers⟩
      exact ⟨member, mem_of_mem_withoutAbsent inside, refers⟩
    · rintro ⟨member, inside, refers⟩
      exact ⟨member, mem_withoutAbsent_of_references inside refers, refers⟩

end

/-! ### Names in hints -/

/-- The names that the arguments of a special form are read for. -/
def formNames (form : String) (arguments : List (List String)) : List String :=
  match form with
  | "ClassVar" | "Final" | "Annotated" => arguments.head?.getD []
  | "Any" | "TypeAlias" | "Literal" => []
  | _ => arguments.flatten

section

variable (context : LoweringContext)

mutual

/-- The names that the type of a hint is read from. What a base is bound to decides which of its
arguments are read. -/
def namesIn : TypeHint → List String
  | .name name => [name]
  | .subscript base arguments =>
    base ::
      match context.bind base with
      | .special form =>
        if form = "Callable" then callableNames arguments
        else formNames form (namesInEach arguments)
      | .builtin _ | .external _ | .key _ => (namesInEach arguments).flatten
  | .union members => (namesInEach members).flatten
  | .quoted text => if Dotted.isName text then [text] else []
  | .absent | .ellipsis | .list _ | .literal _ | .other _ => []

/-- The names that each of several types is read from. -/
def namesInEach : List TypeHint → List (List String)
  | [] => []
  | hint :: rest => namesIn hint :: namesInEach rest

/-- The names that a function form is read from. -/
def callableNames : List TypeHint → List String
  | [.ellipsis, result] => namesIn result
  | [.list items, result] => (namesInEach items).flatten ++ namesIn result
  | [parameter, result] => namesIn parameter ++ namesIn result
  | _ => []

end

/-- Whether a reference is made from one of some names: the name is bound to its key. -/
def Makes (names : List String) (reference : Reference) : Prop :=
  ∃ name ∈ names, ∃ key, context.bind name = .key key ∧ reference = .pending key

/-- Whether the references in a type are those made from some names. -/
def Reads (names : List String) (type : TypeExpr) : Prop :=
  ∀ reference, reference ∈ type.references ↔ context.Makes names reference

end

variable {context : LoweringContext}

theorem not_makes_nil (reference : Reference) : ¬ context.Makes [] reference :=
  fun ⟨_, member, _⟩ => nomatch member

theorem reads_nil {type : TypeExpr} (without : type.references = []) : context.Reads [] type := by
  intro reference
  rw [without]
  exact iff_of_false List.not_mem_nil (not_makes_nil reference)

theorem makes_append_iff {first second : List String} {reference : Reference} :
    context.Makes (first ++ second) reference ↔
      context.Makes first reference ∨ context.Makes second reference := by
  simp only [Makes, List.mem_append, or_and_right, exists_or]

theorem makes_singleton_iff {name : String} {reference : Reference} :
    context.Makes [name] reference ↔
      ∃ key, context.bind name = .key key ∧ reference = .pending key := by
  simp only [Makes, List.mem_singleton, exists_eq_left]

/-- A name that is bound to no key makes no reference. -/
theorem makes_cons_iff {name : String} {names : List String} {reference : Reference}
    (unkeyed : ∀ key, context.bind name ≠ .key key) :
    context.Makes (name :: names) reference ↔ context.Makes names reference := by
  rw [← List.singleton_append, makes_append_iff, makes_singleton_iff]
  exact or_iff_right fun ⟨key, bound, _⟩ => unkeyed key bound

/-- The references in types are made from the names of each. -/
theorem mem_referencesAll_iff {names : List (List String)} {types : List TypeExpr}
    (each : List.Forall₂ context.Reads names types) (reference : Reference) :
    reference ∈ TypeExpr.referencesAll types ↔ context.Makes names.flatten reference := by
  induction each with
  | nil => exact iff_of_false List.not_mem_nil (not_makes_nil reference)
  | cons first _ hypothesis =>
    rw [TypeExpr.referencesAll, List.mem_append, first reference, hypothesis, List.flatten_cons,
      makes_append_iff]

theorem reads_head {names : List (List String)} {types : List TypeExpr}
    (each : List.Forall₂ context.Reads names types) :
    context.Reads (names.head?.getD []) (types.head?.getD .any) := by
  cases each with
  | nil => exact reads_nil rfl
  | cons first _ => exact first

theorem references_bareForm (form : String) : (bareForm form).references = [] := by
  unfold bareForm
  split <;> rfl

theorem reads_nameType (name : String) : context.Reads [name] (context.nameType name) := by
  intro reference
  rw [makes_singleton_iff]
  unfold nameType
  cases context.bind name with
  | key key => simp [TypeExpr.toKey, TypeExpr.references, TypeExpr.referencesAll]
  | special form => simp [references_bareForm]
  | builtin name | external name =>
    simp [TypeExpr.plain, TypeExpr.references, TypeExpr.referencesAll]

theorem reads_formType (form : String) {names : List (List String)} {types : List TypeExpr}
    (each : List.Forall₂ context.Reads names types) (noLiteral : form ≠ "Literal") :
    context.Reads (formNames form names) (context.formType form types) := by
  have first := reads_head each
  have all := mem_referencesAll_iff each
  unfold formType
  split
  · intro reference
    have without : reference ∉ TypeExpr.references .absent := List.not_mem_nil
    simp only [mem_references_union, List.mem_append, or_and_right, exists_or, List.mem_singleton,
      exists_eq_left, or_iff_left without]
    rw [← TypeExpr.mem_referencesAll]
    exact all reference
  · intro reference
    rw [mem_references_union, ← TypeExpr.mem_referencesAll]
    exact all reference
  · exact all
  · exact first
  · exact first
  · exact first
  · exact reads_nil rfl
  · exact reads_nil rfl
  · have others : formNames form names = names.flatten := by
      unfold formNames
      split <;> first | rfl | contradiction
    rw [others]
    exact all

mutual

theorem reads_typeOf : (hint : TypeHint) →
    context.Reads (context.namesIn hint) (context.typeOf hint)
  | .name name => reads_nameType name
  | .subscript base arguments => by
    have each := reads_typesOf arguments
    have all := mem_referencesAll_iff each
    rw [typeOf, namesIn]
    intro reference
    cases bound : context.bind base with
    | key key =>
      rw [← List.singleton_append, makes_append_iff, makes_singleton_iff, ← all reference, bound]
      simp [TypeExpr.references]
    | builtin name =>
      rw [makes_cons_iff (fun key => bound ▸ nofun)]
      dsimp only
      split <;> first | exact all reference | contradiction
    | external name =>
      rw [makes_cons_iff (fun key => bound ▸ nofun)]
      exact all reference
    | special form =>
      rw [makes_cons_iff (fun key => bound ▸ nofun)]
      show _ ↔ context.Makes (if form = "Callable" then context.callableNames arguments
        else formNames form (context.namesInEach arguments)) reference
      split
      next same =>
        cases same
        rw [if_pos rfl]
        exact reads_callableType arguments reference
      next same =>
        cases same
        rw [if_neg (by decide)]
        exact iff_of_false List.not_mem_nil (not_makes_nil reference)
      next other noCallable noLiteral same =>
        cases same
        rw [if_neg noCallable]
        exact reads_formType form each noLiteral reference
      all_goals contradiction
  | .union members => by
    intro reference
    rw [typeOf, mem_references_union, ← TypeExpr.mem_referencesAll, namesIn]
    exact mem_referencesAll_iff (reads_typesOf members) reference
  | .quoted text => by
    rw [typeOf, namesIn]
    split
    · exact reads_nameType text
    · exact reads_nil rfl
  | .absent | .ellipsis | .list _ | .literal _ | .other _ => reads_nil rfl

theorem reads_typesOf : (hints : List TypeHint) →
    List.Forall₂ context.Reads (context.namesInEach hints) (context.typesOf hints)
  | [] => .nil
  | hint :: rest => .cons (reads_typeOf hint) (reads_typesOf rest)

theorem reads_callableType (hints : List TypeHint) :
    context.Reads (context.callableNames hints) (context.callableType hints) := by
  intro reference
  unfold callableType
  split
  · exact reads_typeOf _ reference
  · rw [TypeExpr.references, TypeExpr.referencesGiven, List.mem_append, callableNames,
      makes_append_iff, reads_typeOf, mem_referencesAll_iff (reads_typesOf _)]
  next parameter result noEllipsis noList =>
    have names : context.callableNames [parameter, result] =
        context.namesIn parameter ++ context.namesIn result := by
      rw [callableNames]
      · exact noEllipsis
      · exact noList
    rw [TypeExpr.references, TypeExpr.referencesGiven, List.mem_append, names, makes_append_iff,
      reads_typeOf, TypeExpr.referencesAll, TypeExpr.referencesAll, List.append_nil, reads_typeOf]
  next _ _ noPair =>
    have names : context.callableNames hints = [] := by
      unfold callableNames
      split <;> first | rfl | exact absurd rfl (noPair _ _)
    rw [names]
    exact reads_nil rfl reference

end

/-! ### Names in items -/

section

variable (context : LoweringContext)

/-- Whether a name marks a variable instead of being its type. -/
def Marks (name : String) : Prop :=
  context.bind name = .special "ClassVar" ∨ context.bind name = .special "Final"

instance (name : String) : Decidable (context.Marks name) :=
  inferInstanceAs (Decidable (_ ∨ _))

/-- The hints that the type of a variable is taken from, its marks taken off. -/
def variableHints : TypeHint → List TypeHint
  | .name name => if context.Marks name then [] else [.name name]
  | .subscript base arguments =>
    if context.Marks base then
      match arguments with
      | inner :: _ => variableHints inner
      | [] => []
    else [.subscript base arguments]
  | hint => [hint]

/-- The hints that the types of an item are taken from. -/
def hintsOf (isTop : Bool) : Item → List TypeHint
  | .classDef header _ => header.bases ++ header.metaclass?.toList
  | .function outline => outline.parameters.filterMap (·.hint) ++ outline.returns.toList
  | .assignment outline =>
    if context.declaresAlias outline.hint then outline.valueType.toList
    else
      match outline.hint, outline.valueType with
      | some hint, _ => context.variableHints hint
      | none, some target => if isTop ∧ context.looksLikeAlias target then [target] else []
      | none, none => []
  | .typeAlias _ value _ => [value]

/-- The names that lowering meets in the types of an item. -/
def namesOf (isTop : Bool) (item : Item) : List String :=
  (context.hintsOf isTop item).flatMap context.namesIn

end

theorem types_variableOf (value : Option String) : (hint : TypeHint) →
    (context.variableOf value hint).type.toList = (context.variableHints hint).map context.typeOf
  | .name name => by
    rw [variableOf, variableHints]
    split
    next bound =>
      rw [if_pos (.inl bound)]
      rfl
    next bound =>
      rw [if_pos (.inr bound)]
      rfl
    next noClassVar noFinal =>
      have plain : ¬ context.Marks name := not_or.2 ⟨noClassVar, noFinal⟩
      rw [if_neg plain]
      rfl
  | .subscript base arguments => by
    have head : ∀ inner rest, arguments = inner :: rest →
        (context.variableOf value inner).type.toList =
          (context.variableHints inner).map context.typeOf :=
      fun inner rest same => types_variableOf value inner
    by_cases marks : context.Marks base
    · cases arguments with
      | nil =>
        unfold variableOf variableHints
        rcases marks with bound | bound <;> simp [Marks, bound]
      | cons inner rest =>
        rw [variableHints, if_pos marks, ← head inner rest rfl]
        rcases marks with bound | bound <;> simp only [variableOf, bound]
    · obtain ⟨noClassVar, noFinal⟩ := not_or.1 marks
      have own : context.variableHints (.subscript base arguments) =
          [.subscript base arguments] := by
        unfold variableHints
        exact if_neg marks
      rw [own]
      unfold variableOf
      split <;> first | rfl | contradiction
  | .union _ | .absent | .ellipsis | .quoted _ | .list _ | .literal _ | .other _ => rfl

theorem types_assignment (isTop : Bool) (scope : String) (outline : AssignmentOutline) :
    (context.assignment isTop scope outline).kind.types =
        (context.hintsOf isTop (.assignment outline)).map context.typeOf ∨
      (context.hintsOf isTop (.assignment outline) = [] ∧
        ∃ text, (context.assignment isTop scope outline).kind.types = [.unknown text]) := by
  rw [kind_assignment, hintsOf]
  split
  · cases outline.valueType with
    | some target => exact .inl rfl
    | none => exact .inr ⟨rfl, _, rfl⟩
  · refine .inl ?_
    cases outline.hint with
    | some hint => exact types_variableOf _ hint
    | none =>
      cases outline.valueType with
      | none => rfl
      | some target =>
        show DeclarationKind.types (if _ then _ else _) = List.map _ (if _ then _ else _)
        split <;> rfl

/-- The types in a declaration are those of its hints, unless it is an alias of something that has
not the form of a type. -/
theorem types_declaration (isTop : Bool) (scope : String) (item : Item) :
    (context.declaration isTop scope item).kind.types =
        (context.hintsOf isTop item).map context.typeOf ∨
      (context.hintsOf isTop item = [] ∧
        ∃ text, (context.declaration isTop scope item).kind.types = [.unknown text]) := by
  cases item with
  | classDef header _ =>
    refine .inl ?_
    rw [hintsOf, List.map_append, ← Option.toList_map]
    rfl
  | function outline =>
    refine .inl ?_
    rw [hintsOf, List.map_append, ← Option.toList_map, List.map_filterMap]
    show (outline.parameters.map context.parameter).filterMap _ ++ _ = _
    rw [List.filterMap_map]
    rfl
  | assignment outline => exact context.types_assignment isTop scope outline
  | typeAlias name value line => exact .inl rfl

/-- The references in a declaration are those in the types of its hints. -/
theorem references_declaration (isTop : Bool) (scope : String) (item : Item) :
    (context.declaration isTop scope item).kind.references =
      (context.hintsOf isTop item).flatMap fun hint => (context.typeOf hint).references := by
  rw [DeclarationKind.references]
  rcases context.types_declaration isTop scope item with types | ⟨none, text, types⟩
  · rw [types, List.flatMap_map]
  · rw [none, types]
    rfl

/-- The references in a declaration are made from the names that its item is read for. -/
theorem mem_references_declaration (isTop : Bool) (scope : String) (item : Item)
    (reference : Reference) :
    reference ∈ (context.declaration isTop scope item).kind.references ↔
      context.Makes (context.namesOf isTop item) reference := by
  rw [references_declaration, List.mem_flatMap]
  constructor
  · rintro ⟨hint, member, refers⟩
    obtain ⟨name, inside, makes⟩ := (reads_typeOf hint reference).1 refers
    exact ⟨name, List.mem_flatMap_of_mem member inside, makes⟩
  · rintro ⟨name, inside, makes⟩
    obtain ⟨hint, member, inside⟩ := List.mem_flatMap.1 inside
    exact ⟨hint, member, (reads_typeOf hint reference).2 ⟨name, inside, makes⟩⟩

end LoweringContext

end Declarations
