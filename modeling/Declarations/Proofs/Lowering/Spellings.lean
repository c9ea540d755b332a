/-
This file proves that different ways to write a type lower to the same type. A union may be written
with bars or with one of two forms, and unions in it may be written out or not: all that counts is
what each part adds to it, since members that are joined in a part first can as well be joined
later.
-/

import Declarations.Proofs.Lowering.NormalUnions

namespace Declarations

/-! ### Bars -/

namespace TypeHint

/-- Two hints with a bar between them. -/
def either (left right : TypeHint) : TypeHint :=
  .union (left.members ++ right.members)

/-- Hints with bars between them, read from left to right. -/
def chain (first : TypeHint) (rest : List TypeHint) : TypeHint :=
  rest.foldl either first

theorem members_of_ne {hint : TypeHint} (plain : ∀ hints, hint ≠ .union hints) :
    hint.members = [hint] := by
  unfold members
  split
  next hints => exact absurd rfl (plain hints)
  next => rfl

theorem ofExpr_either (left right : Source.Expr) (text : String) :
    ofExpr (.either left right text) = (ofExpr left).either (ofExpr right) := by
  rw [ofExpr, either]

/-- Only the hint in brackets counts. -/
theorem ofExpr_group_either (left right : Source.Expr) (inner text : String) :
    ofExpr (.group [.either left right inner] text) = (ofExpr left).either (ofExpr right) := by
  rw [ofExpr, ofFirst, ofExpr_either]
  exact nofun

theorem either_assoc (left middle right : TypeHint) :
    (left.either middle).either right = left.either (middle.either right) :=
  congrArg TypeHint.union (List.append_assoc ..)

theorem members_chain (first : TypeHint) (rest : List TypeHint) :
    (first.chain rest).members = (first :: rest).flatMap members := by
  induction rest generalizing first with
  | nil => exact (List.flatMap_singleton ..).symm
  | cons second rest hypothesis =>
    refine (hypothesis (first.either second)).trans ?_
    rw [List.flatMap_cons, List.flatMap_cons, List.flatMap_cons, ← List.append_assoc]
    rfl

/-- A chain is a union of the members of all its hints. -/
theorem chain_cons (first second : TypeHint) (rest : List TypeHint) :
    first.chain (second :: rest) = .union ((first :: second :: rest).flatMap members) := by
  rw [← members_chain, chain, List.foldl_cons]
  induction rest generalizing first second with
  | nil => rfl
  | cons third rest hypothesis => exact hypothesis (first.either second) third

theorem membersOf_eq (items : List Source.Expr) :
    membersOf items = (ofItems items).flatMap members := by
  induction items with
  | nil => rfl
  | cons item rest hypothesis => rw [membersOf, ofItems, hypothesis, List.flatMap_cons]

/-- Alternatives of a type are a chain. -/
theorem ofExpr_choice (first second : Source.Expr) (rest : List Source.Expr) (text : String) :
    ofExpr (.choice (first :: second :: rest) text) =
      (ofExpr first).chain (ofExpr second :: ofItems rest) := by
  rw [chain_cons, ofExpr, membersOf_eq, ofItems, ofItems]

end TypeHint

namespace LoweringContext

/-! ### Members joined in parts -/

section

variable (strict : Bool)

theorem keptMembers_keptMembers (members : List TypeExpr) :
    keptMembers strict (keptMembers strict members) = keptMembers strict members := by
  cases strict with
  | true => exact eraseDups_eraseDups members
  | false => exact looseMembers_looseMembers members

/-- The members of parts may be joined within each part first. -/
theorem keptMembers_flatMap {α : Type} (parts : α → List TypeExpr) (values : List α) :
    keptMembers strict (values.flatMap fun value => keptMembers strict (parts value)) =
      keptMembers strict (values.flatMap parts) := by
  cases strict with
  | true => exact eraseDups_flatMap_eraseDups parts values
  | false => exact looseMembers_flatMap parts values

/-- What is joined of parts depends on what is joined of each. -/
theorem keptMembers_flatMap_congr {α : Type} {parts others : α → List TypeExpr} {values : List α}
    (same : ∀ value ∈ values,
      keptMembers strict (parts value) = keptMembers strict (others value)) :
    keptMembers strict (values.flatMap parts) = keptMembers strict (values.flatMap others) := by
  rw [← keptMembers_flatMap, List.flatMap_congr same, keptMembers_flatMap]

theorem keptMembers_append (front middle back : List TypeExpr) :
    keptMembers strict (front ++ keptMembers strict middle ++ back) =
      keptMembers strict (front ++ middle ++ back) := by
  have parts (middle : List TypeExpr) :
      front ++ middle ++ back = [front, middle, back].flatten := by
    simp
  rw [parts, parts, ← List.flatMap_id, ← List.flatMap_id, ← keptMembers_flatMap strict id,
    ← keptMembers_flatMap strict id]
  simp only [List.flatMap_cons, id, keptMembers_keptMembers]

end

/-- A union of flat types adds its members to another one, also where it is one of them. -/
theorem unionMembers_union {strict : Bool} {types : List TypeExpr}
    (flat : ∀ type ∈ types, type.IsFlat) :
    unionMembers (union strict types) = keptMembers strict (types.flatMap unionMembers) := by
  rw [union_eq]
  exact TypeExpr.unionMembers_ofMembers fun member inside =>
    unionMembers_of_ne (ne_union_of_mem_keptMembers flat member inside)

/-- The union of flat types may stand in another one in place of them. -/
theorem union_union {strict : Bool} {front middle back : List TypeExpr}
    (flat : ∀ type ∈ middle, type.IsFlat) :
    union strict (front ++ union strict middle :: back) =
      union strict (front ++ middle ++ back) := by
  have parts (type : TypeExpr) : (front ++ type :: back).flatMap unionMembers =
      front.flatMap unionMembers ++ unionMembers type ++ back.flatMap unionMembers := by
    simp
  rw [union_eq strict (front ++ _ :: back), parts, unionMembers_union flat, keptMembers_append,
    ← List.flatMap_append, ← List.flatMap_append, ← union_eq]

/-! ### Hints joined in parts -/

variable {context : LoweringContext}

theorem typesOf_eq_map (hints : List TypeHint) :
    context.typesOf hints = hints.map context.typeOf := by
  induction hints with
  | nil => rfl
  | cons hint rest hypothesis => rw [typesOf, hypothesis, List.map_cons]

/-- The type of a hint is the union of itself alone. -/
theorem union_typeOf (hint : TypeHint) :
    union context.options.strictOptional [context.typeOf hint] = context.typeOf hint := by
  by_cases isUnion : ∃ members, context.typeOf hint = .union members
  · obtain ⟨members, same⟩ := isUnion
    have inside : members ∈ (context.typeOf hint).unions := same ▸ List.mem_cons_self
    -- The union is that of some types, which may as well stand alone.
    obtain ⟨part, -, types, joins, whole, -⟩ := isJoinedIn_typeOf hint members inside
    have joined := @union_union context.options.strictOptional [] types [] joins.isFlat
    rw [same, ← whole, joins.typeOf_eq]
    rwa [List.nil_append, List.nil_append, List.append_nil] at joined
  · have alone (strict : Bool) :
        keptMembers strict [context.typeOf hint] = [context.typeOf hint] := by
      cases strict with
      | true => rfl
      | false => exact looseMembers_singleton _
    rw [union_eq, List.flatMap_singleton,
      unionMembers_of_ne fun others same => isUnion ⟨others, same⟩, alone]
    rfl

/-- The members of a hint add to a union what the hint adds to it. -/
theorem keptMembers_members (hint : TypeHint) :
    keptMembers context.options.strictOptional
        ((context.typesOf hint.members).flatMap unionMembers) =
      keptMembers context.options.strictOptional (unionMembers (context.typeOf hint)) := by
  by_cases isUnion : ∃ members, hint = .union members
  · obtain ⟨members, rfl⟩ := isUnion
    rw [typeOf, unionMembers_union (isFlat_typesOf members), keptMembers_keptMembers]
    rfl
  · rw [TypeHint.members_of_ne fun members same => isUnion ⟨members, same⟩, typesOf, typesOf,
      List.flatMap_singleton]

theorem typeOf_union_members (hints : List TypeHint) :
    context.typeOf (.union (hints.flatMap TypeHint.members)) =
      union context.options.strictOptional (context.typesOf hints) := by
  rw [typeOf, union_eq, union_eq, typesOf_eq_map, typesOf_eq_map, List.map_flatMap,
    List.flatMap_assoc, List.flatMap_map]
  refine congrArg ofMembers (keptMembers_flatMap_congr _ fun hint _ => ?_)
  rw [← typesOf_eq_map, keptMembers_members]

/-- A chain of hints has the union of their types. -/
theorem typeOf_chain (first : TypeHint) (rest : List TypeHint) :
    context.typeOf (first.chain rest) =
      union context.options.strictOptional (context.typesOf (first :: rest)) := by
  cases rest with
  | nil => exact (union_typeOf first).symm
  | cons second rest => rw [TypeHint.chain_cons, typeOf_union_members]

section

variable {base : String} (arguments : List TypeHint)

theorem typeOf_unionForm (bound : context.bind base = .special "Union") :
    context.typeOf (.subscript base arguments) =
      union context.options.strictOptional (context.typesOf arguments) :=
  (Joins.union bound arguments).typeOf_eq

theorem typeOf_optionalForm (bound : context.bind base = .special "Optional") :
    context.typeOf (.subscript base arguments) =
      union context.options.strictOptional (context.typesOf arguments ++ [.absent]) :=
  (Joins.optional bound arguments).typeOf_eq

end

/-! ### Generic forms -/

/-- The forms that stand for a builtin, and the builtin. -/
def genericForms : List (String × String) :=
  [("List", "list"), ("Dict", "dict"), ("Set", "set"), ("FrozenSet", "frozenset"),
    ("Type", "type"), ("Tuple", "tuple")]

/-- A form lowers to what the builtin that it stands for lowers to. -/
theorem typeOf_genericForm {form builtin : String} (stands : (form, builtin) ∈ genericForms)
    {name other : String} (isForm : context.bind name = .special form)
    (isBuiltin : context.bind other = .builtin builtin) :
    context.typeOf (.name name) = context.typeOf (.name other) ∧
      ∀ arguments, context.typeOf (.subscript name arguments) =
        context.typeOf (.subscript other arguments) := by
  simp only [typeOf, nameType, isForm, isBuiltin]
  simp only [genericForms, List.mem_cons, List.not_mem_nil, or_false, Prod.mk.injEq] at stands
  rcases stands with ⟨rfl, rfl⟩ | ⟨rfl, rfl⟩ | ⟨rfl, rfl⟩ | ⟨rfl, rfl⟩ | ⟨rfl, rfl⟩ | ⟨rfl, rfl⟩
  all_goals exact ⟨rfl, fun _ => rfl⟩

/-! ### Spellings -/

/-- What is an optional type in one spelling is one in the others, with a bar and as a union with
the absent value. A union in a union may be written out, and both are the chain of the same hints;
it does not matter where brackets stand in a chain, nor whether it was read as alternatives of a
type. The forms that stand for builtins lower like these, with any arguments and without. -/
theorem spellings_agree (context : LoweringContext) :
    (∀ optional union, context.bind optional = .special "Optional" →
      context.bind union = .special "Union" → ∀ hint,
        context.typeOf (.subscript optional [hint]) = context.typeOf (hint.either .absent) ∧
          context.typeOf (hint.either .absent) =
            context.typeOf (.subscript union [hint, .absent])) ∧
    (∀ outer inner, context.bind outer = .special "Union" → context.bind inner = .special "Union" →
      ∀ front middle back,
        context.typeOf (.subscript outer (front ++ .subscript inner middle :: back)) =
            context.typeOf (.subscript outer (front ++ middle ++ back)) ∧
          ∀ first rest, front ++ middle ++ back = first :: rest →
            context.typeOf (.subscript outer (front ++ middle ++ back)) =
              context.typeOf (first.chain rest)) ∧
    (∀ (first second third : Source.Expr) (inner group whole : String),
      context.typeOf (.ofExpr (.either (.group [.either first second inner] group) third whole)) =
          context.typeOf ((TypeHint.ofExpr first).chain [.ofExpr second, .ofExpr third]) ∧
        context.typeOf (.ofExpr (.either first (.group [.either second third inner] group) whole)) =
          context.typeOf ((TypeHint.ofExpr first).chain [.ofExpr second, .ofExpr third])) ∧
    (∀ (first second : Source.Expr) (rest : List Source.Expr) (whole : String),
      context.typeOf (.ofExpr (.choice (first :: second :: rest) whole)) =
        context.typeOf
          ((TypeHint.ofExpr first).chain (.ofExpr second :: TypeHint.ofItems rest))) ∧
    ∀ form builtin, (form, builtin) ∈ genericForms →
      ∀ name other, context.bind name = .special form → context.bind other = .builtin builtin →
        context.typeOf (.name name) = context.typeOf (.name other) ∧
          ∀ arguments, context.typeOf (.subscript name arguments) =
            context.typeOf (.subscript other arguments) := by
  refine ⟨fun optional union isOptional isUnion hint => ?_,
    fun outer inner isOuter isInner front middle back => ⟨?_, fun first rest same => ?_⟩,
    fun first second third inner group whole => ⟨?_, ?_⟩,
    fun first second rest whole => congrArg _ (TypeHint.ofExpr_choice first second rest whole),
    fun form builtin stands name other => typeOf_genericForm stands⟩
  · have chained : context.typeOf (hint.either .absent) =
        LoweringContext.union context.options.strictOptional [context.typeOf hint, .absent] :=
      typeOf_chain hint [.absent]
    rw [typeOf_optionalForm [hint] isOptional, typeOf_unionForm _ isUnion, chained]
    exact ⟨rfl, rfl⟩
  · rw [typeOf_unionForm _ isOuter, typeOf_unionForm _ isOuter, typesOf_eq_map, typesOf_eq_map,
      List.map_append, List.map_cons, typeOf_unionForm _ isInner, typesOf_eq_map, List.map_append,
      List.map_append, ← typesOf_eq_map middle]
    exact union_union (isFlat_typesOf middle)
  · rw [typeOf_unionForm _ isOuter, same, typeOf_chain]
  · rw [TypeHint.ofExpr_either, TypeHint.ofExpr_group_either]
    rfl
  · rw [TypeHint.ofExpr_either, TypeHint.ofExpr_group_either, ← TypeHint.either_assoc]
    rfl

/-- What a file can write that imports some forms, lowered without strict unions. -/
def spellingContext : LoweringContext :=
  ⟨⟨false, true, true⟩, ImportBindings.ofImports "shelf" false
    [⟨"typing", [⟨"Optional", none⟩, ⟨"Union", some "Either"⟩, ⟨"List", none⟩], .origin, 1⟩], []⟩

/-- An optional type whose union comes to one member, a union that comes to the absent value alone
in another one, and a list of such a union. -/
theorem spellings_agree_loose :
    spellingContext.typeOf (.subscript "Optional" [.union [.name "int", .absent]]) =
        spellingContext.typeOf (.union [.name "int", .absent, .absent]) ∧
      spellingContext.typeOf (.subscript "Either" [.name "int", .subscript "Either" [.absent]]) =
        spellingContext.typeOf (.union [.name "int", .absent]) ∧
      spellingContext.typeOf (.subscript "List" [.name "int"]) =
        spellingContext.typeOf (.subscript "list" [.name "int"]) := by
  have isOptional : spellingContext.bind "Optional" = .special "Optional" := by decide +kernel
  have isUnion : spellingContext.bind "Either" = .special "Union" := by decide +kernel
  have isList : spellingContext.bind "List" = .special "List" := by decide +kernel
  have builtin : spellingContext.bind "list" = .builtin "list" := by decide +kernel
  have stands : ("List", "list") ∈ genericForms := List.mem_cons_self
  obtain ⟨optional, nested, -, -, generic⟩ := spellings_agree spellingContext
  obtain ⟨first, -⟩ := optional _ _ isOptional isUnion (.union [.name "int", .absent])
  obtain ⟨second, chained⟩ := nested _ _ isUnion isUnion [.name "int"] [.absent] []
  obtain ⟨-, third⟩ := generic _ _ stands _ _ isList builtin
  exact ⟨first, second.trans (chained _ _ rfl), third _⟩

end LoweringContext

end Declarations
