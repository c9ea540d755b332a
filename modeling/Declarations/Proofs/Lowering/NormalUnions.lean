/-
This file proves that every union in a lowered type is in normal form. A union is made of the
types of the hints that one of the hints joins, and no member that it is made of is a union
itself, though only one level of each joined type is taken apart: the types below it are in
normal form already.
-/

import Declarations.Proofs.Lowering.Names

namespace Declarations

/-- Without repetitions values stand in the order in which they occur first. -/
theorem pairwise_idxOf_eraseDups {α : Type} [BEq α] [LawfulBEq α] (values : List α) :
    values.eraseDups.Pairwise fun first second =>
      values.idxOf first < values.idxOf second := by
  induction values using List.reverseRecOn with
  | nil => exact .nil
  | append_singleton values value hypothesis =>
    have place {known : α} (member : known ∈ values.eraseDups) :
        (values ++ [value]).idxOf known = values.idxOf known :=
      List.idxOf_append_of_mem (List.mem_eraseDups.1 member)
    have kept : values.eraseDups.Pairwise fun first second =>
        (values ++ [value]).idxOf first < (values ++ [value]).idxOf second := by
      refine hypothesis.imp_of_mem fun first second ordered => ?_
      rwa [place first, place second]
    rw [eraseDups_concat]
    split
    · rwa [List.append_nil]
    next new =>
      rw [List.elem_iff] at new
      refine List.pairwise_append.2
        ⟨kept, List.pairwise_singleton _ _, fun known member last isLast => ?_⟩
      rw [List.mem_singleton.1 isLast, place member, List.idxOf_append_of_notMem new]
      exact Nat.lt_add_right _ (List.idxOf_lt_length_of_mem (List.mem_eraseDups.1 member))

/-! ### Unions in types -/

/-- A type that is no union adds itself to one. -/
theorem LoweringContext.unionMembers_of_ne {type : TypeExpr}
    (plain : ∀ others, type ≠ .union others) : unionMembers type = [type] := by
  unfold unionMembers
  split
  next members => exact absurd rfl (plain members)
  next => rfl

namespace TypeExpr

mutual

/-- The members of all unions in a type. -/
def unions : TypeExpr → List (List TypeExpr)
  | .union members => members :: unionsAll members
  | .builtin _ arguments | .named _ arguments => unionsAll arguments
  | .tuple items => unionsAll items
  | .callable parameters result => unionsGiven parameters ++ unions result
  | .any | .absent | .literal _ | .unknown _ => []

/-- The members of all unions in types. -/
def unionsAll : List TypeExpr → List (List TypeExpr)
  | [] => []
  | first :: rest => unions first ++ unionsAll rest

/-- The members of all unions in a parameter list. -/
def unionsGiven : Option (List TypeExpr) → List (List TypeExpr)
  | none => []
  | some types => unionsAll types

end

theorem mem_unionsAll {members : List TypeExpr} {types : List TypeExpr} :
    members ∈ unionsAll types ↔ ∃ type ∈ types, members ∈ type.unions := by
  induction types with
  | nil => simp [unionsAll]
  | cons first rest hypothesis => simp [unionsAll, hypothesis]

/-- Whether no member that a type adds to a union is a union. -/
def IsFlat (type : TypeExpr) : Prop :=
  ∀ member ∈ LoweringContext.unionMembers type, ∀ others, member ≠ .union others

theorem isFlat_of_ne {type : TypeExpr} (plain : ∀ others, type ≠ .union others) : type.IsFlat := by
  intro member inside
  rw [LoweringContext.unionMembers_of_ne plain, List.mem_singleton] at inside
  exact inside ▸ plain

end TypeExpr

namespace TypeHint

mutual

/-- A hint and all hints in it. -/
def parts : TypeHint → List TypeHint
  | .subscript base arguments => .subscript base arguments :: partsOfAll arguments
  | .union members => .union members :: partsOfAll members
  | .list items => .list items :: partsOfAll items
  | hint => [hint]

/-- Hints and all hints in them. -/
def partsOfAll : List TypeHint → List TypeHint
  | [] => []
  | first :: rest => parts first ++ partsOfAll rest

end

theorem mem_parts_self (hint : TypeHint) : hint ∈ hint.parts := by
  cases hint <;> exact List.mem_cons_self

theorem mem_partsOfAll {part : TypeHint} {hints : List TypeHint} :
    part ∈ partsOfAll hints ↔ ∃ hint ∈ hints, part ∈ hint.parts := by
  induction hints with
  | nil => simp [partsOfAll]
  | cons first rest hypothesis => simp [partsOfAll, hypothesis]

end TypeHint

/-- Whether `members` are those of the union of some types: what these add to the union, without
unions among it, without repetitions, and with the absent value only where unions are strict. -/
structure IsUnionOf (strict : Bool) (types members : List TypeExpr) : Prop where
  flat : ∀ member ∈ members, ∀ others, member ≠ .union others
  distinct : members.Nodup
  notSingle : members.length ≠ 1
  mem_iff : ∀ type, type ∈ members ↔
    type ∈ types.flatMap LoweringContext.unionMembers ∧ (strict = true ∨ type ≠ .absent)
  inOrder : members.Pairwise fun first second =>
    (types.flatMap LoweringContext.unionMembers).idxOf first <
      (types.flatMap LoweringContext.unionMembers).idxOf second

namespace LoweringContext

open TypeExpr (IsFlat isFlat_of_ne mem_unionsAll)

/-! ### Building a union -/

/-- The members of a union of which some members were joined. -/
def keptMembers (strict : Bool) (members : List TypeExpr) : List TypeExpr :=
  if strict then members.eraseDups else looseMembers members

theorem union_eq (strict : Bool) (types : List TypeExpr) :
    union strict types = ofMembers (keptMembers strict (types.flatMap unionMembers)) := by
  unfold union keptMembers looseMembers
  rw [withoutRepeats_eq]

theorem mem_of_mem_keptMembers {strict : Bool} {members : List TypeExpr} {member : TypeExpr}
    (inside : member ∈ keptMembers strict members) : member ∈ members := by
  cases strict with
  | true => exact List.mem_eraseDups.1 inside
  | false => exact mem_of_mem_looseMembers inside

/-- Members that are not one alone are all that were joined, the absent value apart where unions
are not strict. -/
theorem keptMembers_eq {strict : Bool} {members : List TypeExpr}
    (several : (keptMembers strict members).length ≠ 1) :
    keptMembers strict members =
      members.eraseDups.filter fun member => strict || member != .absent := by
  cases strict with
  | true => exact (List.filter_true _).symm
  | false =>
    simp only [keptMembers, Bool.false_eq_true, if_false, Bool.false_or] at several ⊢
    by_cases absent : presentMembers members = []
    · rw [looseMembers_of_absent absent] at several ⊢
      cases members with
      | nil => rfl
      | cons first rest =>
        -- All are the absent value, so without repetitions there is one.
        have all := presentMembers_eq_nil_iff.1 absent
        have alone : (first :: rest).eraseDups = [first] := by
          have none : (rest.filter fun member => !member == first) = [] := by
            refine List.filter_eq_nil_iff.2 fun member inside => ?_
            rw [all member (List.mem_cons_of_mem _ inside), all first List.mem_cons_self]
            decide
          rw [List.eraseDups_cons, none]
          rfl
        rw [alone] at several
        exact absurd rfl several
    · rw [looseMembers_of_present absent, filter_eraseDups, presentMembers]

section

variable {strict : Bool} {types members : List TypeExpr}

/-- No member that flat types add to a union is a union. -/
theorem ne_union_of_mem_keptMembers (flat : ∀ type ∈ types, type.IsFlat) :
    ∀ member ∈ keptMembers strict (types.flatMap unionMembers),
      ∀ others, member ≠ .union others := by
  intro member inside
  obtain ⟨type, among, within⟩ := List.mem_flatMap.1 (mem_of_mem_keptMembers inside)
  exact flat type among member within

/-- A union of flat types is flat, also where it is one of their members. -/
theorem isFlat_union (flat : ∀ type ∈ types, type.IsFlat) : (union strict types).IsFlat := by
  have kept : ∀ member ∈ keptMembers strict (types.flatMap unionMembers),
      ∀ others, member ≠ .union others := ne_union_of_mem_keptMembers flat
  rw [union_eq]
  unfold ofMembers
  split
  next alone => exact isFlat_of_ne (kept _ (alone ▸ List.mem_cons_self))
  next => exact kept

theorem isUnionOf_of_union_eq (flat : ∀ type ∈ types, type.IsFlat)
    (joined : union strict types = .union members) : IsUnionOf strict types members := by
  have isFlat : ∀ member ∈ members, ∀ others, member ≠ .union others := by
    have whole : (union strict types).IsFlat := isFlat_union flat
    rwa [joined] at whole
  have same : keptMembers strict (types.flatMap unionMembers) = members ∧ members.length ≠ 1 := by
    rw [union_eq] at joined
    generalize kept : keptMembers strict (types.flatMap unionMembers) = chosen at joined
    match chosen with
    | [] => exact ⟨TypeExpr.union.inj joined, by cases joined; decide⟩
    | [alone] =>
      have isKept : alone ∈ keptMembers strict (types.flatMap unionMembers) :=
        kept ▸ List.mem_cons_self
      exact absurd joined (ne_union_of_mem_keptMembers flat alone isKept members)
    | _ :: _ :: _ => exact ⟨TypeExpr.union.inj joined, by cases joined; simp⟩
  obtain ⟨rfl, several⟩ := same
  have filtered := keptMembers_eq several
  have inOrder := (pairwise_idxOf_eraseDups (types.flatMap unionMembers)).filter
    fun member => strict || member != .absent
  rw [← filtered] at inOrder
  refine ⟨isFlat, inOrder.imp fun less same => ?_, several, fun type => ?_, inOrder⟩
  · exact Nat.lt_irrefl _ (same ▸ less)
  · rw [filtered, List.mem_filter, List.mem_eraseDups, Bool.or_eq_true, bne_iff_ne]

end

theorem mem_unions_union {strict : Bool} {types members : List TypeExpr}
    (inside : members ∈ (union strict types).unions) :
    union strict types = .union members ∨ ∃ type ∈ types, members ∈ type.unions := by
  have below (member : TypeExpr) (kept : member ∈ keptMembers strict (types.flatMap unionMembers))
      (within : members ∈ member.unions) : ∃ type ∈ types, members ∈ type.unions := by
    obtain ⟨type, among, joined⟩ := List.mem_flatMap.1 (mem_of_mem_keptMembers kept)
    refine ⟨type, among, ?_⟩
    unfold unionMembers at joined
    split at joined
    next others => exact List.mem_cons_of_mem _ (mem_unionsAll.2 ⟨member, joined, within⟩)
    next => exact List.mem_singleton.1 joined ▸ within
  rw [union_eq] at inside ⊢
  generalize keptMembers strict (types.flatMap unionMembers) = kept at *
  unfold ofMembers at inside ⊢
  split at inside
  next alone => exact .inr (below alone List.mem_cons_self inside)
  next =>
    rcases List.mem_cons.1 inside with rfl | deeper
    · exact .inl rfl
    · obtain ⟨member, among, within⟩ := mem_unionsAll.1 deeper
      exact .inr (below member among within)

/-! ### Hints -/

/-- Which types a hint joins in a union: those of its members, or those that it gives to one of the
two forms of unions. -/
inductive Joins (context : LoweringContext) : TypeHint → List TypeExpr → Prop
  | members (hints : List TypeHint) : Joins context (.union hints) (context.typesOf hints)
  | union {base : String} (bound : context.bind base = .special "Union")
      (arguments : List TypeHint) :
      Joins context (.subscript base arguments) (context.typesOf arguments)
  | optional {base : String} (bound : context.bind base = .special "Optional")
      (arguments : List TypeHint) :
      Joins context (.subscript base arguments) (context.typesOf arguments ++ [.absent])

variable {context : LoweringContext}

theorem Joins.typeOf_eq {hint : TypeHint} {types : List TypeExpr}
    (joins : context.Joins hint types) :
    context.typeOf hint = LoweringContext.union context.options.strictOptional types := by
  cases joins with
  | members hints => rw [typeOf]
  | union bound arguments => rw [typeOf, bound]; rfl
  | optional bound arguments => rw [typeOf, bound]; rfl

/-- A name is no union. -/
theorem unions_nameType (name : String) : (context.nameType name).unions = [] := by
  unfold nameType bareForm
  split
  · rfl
  · split <;> rfl
  · rfl
  · rfl

theorem isFlat_nameType (name : String) : (context.nameType name).IsFlat := by
  refine isFlat_of_ne fun others same => ?_
  have none : (context.nameType name).unions = [] := unions_nameType name
  rw [same] at none
  cases none

theorem isFlat_formType (form : String) {arguments : List TypeExpr}
    (flat : ∀ type ∈ arguments, type.IsFlat) : (context.formType form arguments).IsFlat := by
  have first : (arguments.head?.getD .any).IsFlat := by
    cases arguments with
    | nil => exact isFlat_of_ne nofun
    | cons first rest => exact flat first List.mem_cons_self
  unfold formType
  split
  · refine isFlat_union (List.forall_mem_append.2 ⟨flat, List.forall_mem_singleton.2 ?_⟩)
    exact isFlat_of_ne nofun
  · exact isFlat_union flat
  · exact isFlat_of_ne nofun
  · exact first
  · exact first
  · exact first
  · exact isFlat_of_ne nofun
  · exact isFlat_of_ne nofun
  · exact isFlat_of_ne nofun

theorem isFlat_callableType (hints : List TypeHint) : (context.callableType hints).IsFlat := by
  have flat (given : Option (List TypeExpr)) (result : TypeExpr) :
      (TypeExpr.callable given result).IsFlat := isFlat_of_ne nofun
  unfold callableType
  split <;> exact flat _ _

mutual

/-- The type of a hint is flat, whatever unions it is made of. -/
theorem isFlat_typeOf : (hint : TypeHint) → (context.typeOf hint).IsFlat
  | .name name => isFlat_nameType name
  | .subscript base arguments => by
    rw [typeOf]
    split
    · exact isFlat_callableType arguments
    · exact isFlat_of_ne nofun
    · exact isFlat_formType _ (isFlat_typesOf arguments)
    · exact isFlat_of_ne nofun
    · exact isFlat_of_ne nofun
    · exact isFlat_of_ne nofun
    · exact isFlat_of_ne nofun
  | .union members => isFlat_union (isFlat_typesOf members)
  | .quoted text => by
    rw [typeOf]
    split
    · exact isFlat_nameType text
    · exact isFlat_of_ne nofun
  | .absent | .ellipsis | .list _ | .literal _ | .other _ => isFlat_of_ne nofun

theorem isFlat_typesOf : (hints : List TypeHint) → ∀ type ∈ context.typesOf hints, type.IsFlat
  | [] => fun _ member => nomatch member
  | hint :: rest => List.forall_mem_cons.2 ⟨isFlat_typeOf hint, isFlat_typesOf rest⟩

end

/-- Whether a part of a hint joins types whose union has some members. -/
def IsJoinedIn (context : LoweringContext) (hint : TypeHint) (members : List TypeExpr) : Prop :=
  ∃ part ∈ hint.parts, ∃ types, context.Joins part types ∧
    context.typeOf part = .union members ∧
    IsUnionOf context.options.strictOptional types members

theorem Joins.isFlat {hint : TypeHint} {types : List TypeExpr} (joins : context.Joins hint types) :
    ∀ type ∈ types, type.IsFlat := by
  cases joins with
  | members hints => exact isFlat_typesOf hints
  | union _ arguments => exact isFlat_typesOf arguments
  | optional _ arguments =>
    exact List.forall_mem_append.2 ⟨isFlat_typesOf arguments,
      List.forall_mem_singleton.2 (isFlat_of_ne nofun)⟩

section

variable {members : List TypeExpr}

/-- What is joined in one of some hints is joined in a hint that has all their parts. -/
theorem IsJoinedIn.of_mem {hint : TypeHint} {hints : List TypeHint}
    (joined : ∃ inner ∈ hints, context.IsJoinedIn inner members)
    (parts : TypeHint.partsOfAll hints ⊆ hint.parts) : context.IsJoinedIn hint members := by
  obtain ⟨inner, among, part, inside, rest⟩ := joined
  exact ⟨part, parts (TypeHint.mem_partsOfAll.2 ⟨inner, among, inside⟩), rest⟩

/-- A union in the type of a hint that joins types is its own, or lies in one of these. -/
theorem Joins.isJoinedIn_or {hint : TypeHint} {types : List TypeExpr}
    (joins : context.Joins hint types) (inside : members ∈ (context.typeOf hint).unions) :
    context.IsJoinedIn hint members ∨ ∃ type ∈ types, members ∈ type.unions := by
  rw [joins.typeOf_eq] at inside
  rcases mem_unions_union inside with whole | below
  · exact .inl ⟨hint, hint.mem_parts_self, types, joins, joins.typeOf_eq.trans whole,
      isUnionOf_of_union_eq joins.isFlat whole⟩
  · exact .inr below

theorem unions_head {arguments : List TypeExpr}
    (inside : members ∈ (arguments.head?.getD .any).unions) :
    ∃ type ∈ arguments, members ∈ type.unions := by
  cases arguments with
  | nil => cases inside
  | cons first rest => exact ⟨first, List.mem_cons_self, inside⟩

/-- A form that joins no types has the unions of its arguments. -/
theorem unions_formType {form : String} (noUnion : form ≠ "Union") (noOptional : form ≠ "Optional")
    {arguments : List TypeExpr} (inside : members ∈ (context.formType form arguments).unions) :
    ∃ type ∈ arguments, members ∈ type.unions := by
  unfold formType at inside
  split at inside
  · contradiction
  · contradiction
  · exact mem_unionsAll.1 inside
  · exact unions_head inside
  · exact unions_head inside
  · exact unions_head inside
  · cases inside
  · cases inside
  · exact mem_unionsAll.1 inside

end

mutual

theorem isJoinedIn_typeOf : (hint : TypeHint) → ∀ members ∈ (context.typeOf hint).unions,
    context.IsJoinedIn hint members
  | .name name, members, inside => by
    rw [typeOf, unions_nameType] at inside
    cases inside
  | .subscript base arguments, members, inside => by
    have below (joined : ∃ inner ∈ arguments, context.IsJoinedIn inner members) :
        context.IsJoinedIn (.subscript base arguments) members :=
      .of_mem joined (List.subset_cons_self _ _)
    have all := isJoinedIn_typesOf arguments
    have given (within : ∃ type ∈ context.typesOf arguments, members ∈ type.unions) :
        context.IsJoinedIn (.subscript base arguments) members := by
      obtain ⟨type, among, inside⟩ := within
      exact below (all type among members inside)
    cases bound : context.bind base with
    | special form =>
      by_cases isUnion : form = "Union"
      · exact (Joins.union (isUnion ▸ bound) arguments).isJoinedIn_or inside |>.elim id given
      by_cases isOptional : form = "Optional"
      · rcases (Joins.optional (isOptional ▸ bound) arguments).isJoinedIn_or inside with
          here | ⟨type, among, within⟩
        · exact here
        · rcases List.mem_append.1 among with argument | last
          · exact given ⟨type, argument, within⟩
          · rw [List.mem_singleton.1 last] at within
            cases within
      rw [typeOf, bound] at inside
      split at inside
      next => exact below (isJoinedIn_callableType arguments members inside)
      next => cases inside
      next same => cases same; exact given (unions_formType isUnion isOptional inside)
      all_goals contradiction
    | builtin name =>
      rw [typeOf, bound] at inside
      split at inside <;> first | exact given (mem_unionsAll.1 inside) | contradiction
    | external name =>
      rw [typeOf, bound] at inside
      exact given (mem_unionsAll.1 inside)
    | key key =>
      rw [typeOf, bound] at inside
      exact given (mem_unionsAll.1 inside)
  | .union hints, members, inside => by
    rcases (Joins.members hints).isJoinedIn_or inside with here | ⟨type, among, within⟩
    · exact here
    · exact .of_mem (isJoinedIn_typesOf hints type among members within)
        (List.subset_cons_self _ _)
  | .quoted text, members, inside => by
    rw [typeOf] at inside
    split at inside
    · rw [unions_nameType] at inside
      cases inside
    · cases inside
  | .absent, _, inside | .ellipsis, _, inside | .list _, _, inside | .literal _, _, inside
  | .other _, _, inside => nomatch inside

theorem isJoinedIn_typesOf : (hints : List TypeHint) → ∀ type ∈ context.typesOf hints,
    ∀ members ∈ type.unions, ∃ hint ∈ hints, context.IsJoinedIn hint members
  | hint :: rest, type, among, members, inside => by
    rcases List.mem_cons.1 among with rfl | later
    · exact ⟨hint, List.mem_cons_self, isJoinedIn_typeOf hint members inside⟩
    · obtain ⟨other, member, joined⟩ := isJoinedIn_typesOf rest type later members inside
      exact ⟨other, List.mem_cons_of_mem _ member, joined⟩

theorem isJoinedIn_callableType (hints : List TypeHint) :
    ∀ members ∈ (context.callableType hints).unions,
      ∃ hint ∈ hints, context.IsJoinedIn hint members := by
  intro members inside
  unfold callableType at inside
  split at inside
  next result => exact ⟨result, by simp, isJoinedIn_typeOf result members inside⟩
  next items result =>
    rcases List.mem_append.1 inside with given | returned
    · obtain ⟨type, among, within⟩ := mem_unionsAll.1 given
      refine ⟨.list items, List.mem_cons_self, .of_mem ?_ (List.subset_cons_self _ _)⟩
      exact isJoinedIn_typesOf items type among members within
    · exact ⟨result, by simp, isJoinedIn_typeOf result members returned⟩
  next parameter result _ _ =>
    rcases List.mem_append.1 inside with given | returned
    · obtain ⟨type, among, within⟩ := mem_unionsAll.1 given
      rw [List.mem_singleton.1 among] at within
      exact ⟨parameter, List.mem_cons_self, isJoinedIn_typeOf parameter members within⟩
    · exact ⟨result, by simp, isJoinedIn_typeOf result members returned⟩
  next => cases inside

end

end LoweringContext

/-! ### Modules -/

namespace Module

section

variable {options : LoweringOptions} {name : String} {path : Path} {outline : Outline}

/-- A type of a declaration is that of a hint at its site, unless it is a text. -/
theorem exists_hint_of_mem_types {declaration : Declaration} {type : TypeExpr}
    (member : declaration ∈ (ofOutline options name path outline).declarations)
    (among : type ∈ declaration.kind.types) :
    ∃ site ∈ Site.ofOutline name outline,
      declaration.toDeclarationBody = (contextOf options name path outline).declared site ∧
        let context := (contextOf options name path outline).within site
        ((∃ hint ∈ context.hintsOf site.outer.isEmpty site.item, type = context.typeOf hint) ∨
          ∃ text, type = .unknown text) := by
  obtain ⟨site, isSite, isOwn⟩ := exists_site_of_mem member
  refine ⟨site, isSite, isOwn.symm, ?_⟩
  have here : type ∈ ((contextOf options name path outline).declared site).kind.types :=
    isOwn.symm ▸ among
  rcases ((contextOf options name path outline).within site).types_declaration
    site.outer.isEmpty site.own.path site.item with types | ⟨-, text, types⟩
  · rw [LoweringContext.declared, types] at here
    obtain ⟨hint, isHint, rfl⟩ := List.mem_map.1 here
    exact .inl ⟨hint, isHint, rfl⟩
  · rw [LoweringContext.declared, types] at here
    exact .inr ⟨text, List.mem_singleton.1 here⟩

end

/-- Every union in the type of a hint, and in every type of a module, is in normal form: it is made
of the types that a part of the hint joins, holds what these add to it in the order of first
occurrence, has no union and no repetition among its members and not one member alone, and holds
the absent value only where unions are strict and one of the types adds it. -/
theorem unions_normal :
    (∀ (context : LoweringContext) (hint : TypeHint), ∀ members ∈ (context.typeOf hint).unions,
      context.IsJoinedIn hint members) ∧
    ∀ (options : LoweringOptions) (name : String) (path : Path) (outline : Outline),
      ∀ declaration ∈ (ofOutline options name path outline).declarations,
        ∀ type ∈ declaration.kind.types, ∀ members ∈ type.unions,
          ∃ site ∈ Site.ofOutline name outline,
            declaration.toDeclarationBody = (contextOf options name path outline).declared site ∧
              let context := (contextOf options name path outline).within site
              ∃ hint ∈ context.hintsOf site.outer.isEmpty site.item,
                type = context.typeOf hint ∧ context.IsJoinedIn hint members := by
  refine ⟨fun context hint => context.isJoinedIn_typeOf hint,
    fun options name path outline declaration member type among members inside => ?_⟩
  obtain ⟨site, isSite, isOwn, ⟨hint, isHint, rfl⟩ | ⟨text, rfl⟩⟩ :=
    exists_hint_of_mem_types member among
  · exact ⟨site, isSite, isOwn, hint, isHint, rfl, LoweringContext.isJoinedIn_typeOf hint _ inside⟩
  · cases inside

/-- A function with a parameter of an optional union, in which one member is repeated and another
one has a union in it. -/
def lender : Item :=
  .function ⟨"lend", none,
    [⟨"book", some (.subscript "Optional" [.union [.name "str",
      .subscript "list" [.union [.name "int", .absent]], .name "str"]]), none, .regular⟩],
    none, [], false, 2, 2⟩

/-- The function in a file that imports the form of optional types. -/
def lendingShelf : Outline :=
  ⟨none, [⟨"typing", [⟨"Optional", none⟩], .origin, 1⟩], [lender]⟩

/-- The outer union of the parameter has three members, the absent value as the last. -/
theorem unions_normal_lending :
    let module := ofOutline ⟨true, true, true⟩ "shelf" ⟨"shelf.py"⟩ lendingShelf
    let members : List TypeExpr :=
      [.plain "str", .builtin "list" [.union [.plain "int", .absent]], .absent]
    ∃ declaration ∈ module.declarations, ∃ type ∈ declaration.kind.types,
      members ∈ type.unions ∧ ∃ site ∈ Site.ofOutline "shelf" lendingShelf,
        let context := (contextOf ⟨true, true, true⟩ "shelf" ⟨"shelf.py"⟩ lendingShelf).within site
        ∃ hint ∈ context.hintsOf site.outer.isEmpty site.item,
          type = context.typeOf hint ∧ context.IsJoinedIn hint members := by
  intro module members
  have there : ∃ declaration ∈ module.declarations, ∃ type ∈ declaration.kind.types,
      members ∈ type.unions := by
    decide +kernel
  obtain ⟨declaration, member, type, among, inside⟩ := there
  obtain ⟨-, ofModules⟩ := unions_normal
  obtain ⟨site, isSite, -, joined⟩ :=
    ofModules ⟨true, true, true⟩ "shelf" ⟨"shelf.py"⟩ lendingShelf declaration member type among
      members inside
  exact ⟨declaration, member, type, among, inside, site, isSite, joined⟩

end Module

end Declarations
