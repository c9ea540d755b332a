/-
This file proves that leaving the absent value out of unions can wait: building all unions of
a type strictly, and then rebuilding each from the inside without the absent value, is the
same as building them without it at once. Types that differ only in where they are absent may
become equal then, so the repeated members have to be dropped again, and nested unions that
shrink to one member have to be taken apart again.
-/

import Declarations.Lowering.Types
import Mathlib.Data.List.Basic
import Mathlib.Data.List.Induction

namespace Declarations

/-! ### Repeated members -/

section Repeats

variable {α β : Type}

theorem removeAll_congr [BEq α] [LawfulBEq α] {first second : List α}
    (same : ∀ value, value ∈ first ↔ value ∈ second) (values : List α) :
    values.removeAll first = values.removeAll second := by
  refine List.filter_congr fun value _ => congrArg (!·) ?_
  rw [Bool.eq_iff_iff, List.elem_iff, List.elem_iff, same]

variable [BEq α] [LawfulBEq α]

/-- A value at the end counts unless it came before. -/
theorem eraseDups_concat (values : List α) (value : α) :
    (values ++ [value]).eraseDups =
      values.eraseDups ++ if values.elem value then [] else [value] := by
  rw [List.eraseDups_append, List.removeAll, List.filter_cons, List.filter_nil]
  cases List.elem value values <;> rfl

theorem filter_eraseDups (keep : α → Bool) (values : List α) :
    values.eraseDups.filter keep = (values.filter keep).eraseDups := by
  induction values using List.reverseRecOn with
  | nil => rfl
  | append_singleton values value hypothesis =>
    rw [eraseDups_concat, List.filter_append, hypothesis, List.filter_append, List.filter_cons,
      List.filter_nil]
    cases kept : keep value with
    | false => cases values.elem value <;> simp [kept]
    | true =>
      have among : (values.filter keep).elem value = values.elem value := by
        rw [Bool.eq_iff_iff, List.elem_iff, List.elem_iff, List.mem_filter, and_iff_left kept]
      rw [if_pos rfl, eraseDups_concat, among]
      cases values.elem value <;> simp [kept]

omit [LawfulBEq α] in
theorem eraseDups_eq_nil_iff {values : List α} : values.eraseDups = [] ↔ values = [] := by
  cases values with
  | nil => simp
  | cons value rest => simp [List.eraseDups_cons]

theorem eraseDups_eraseDups (values : List α) : values.eraseDups.eraseDups = values.eraseDups := by
  induction values using List.reverseRecOn with
  | nil => rfl
  | append_singleton values value hypothesis =>
    rw [eraseDups_concat]
    split
    · rw [List.append_nil, hypothesis]
    next new =>
      have stillNew : ¬ values.eraseDups.elem value = true := by
        rwa [List.elem_iff, List.mem_eraseDups, ← List.elem_iff]
      rw [eraseDups_concat, hypothesis, if_neg stillNew]

/-- The parts of a repeated value are repeated. -/
theorem eraseDups_flatMap_of_eraseDups [BEq β] [LawfulBEq β] (parts : α → List β)
    (values : List α) :
    (values.eraseDups.flatMap parts).eraseDups = (values.flatMap parts).eraseDups := by
  induction values using List.reverseRecOn with
  | nil => rfl
  | append_singleton values value hypothesis =>
    have same (part : β) : part ∈ values.eraseDups.flatMap parts ↔ part ∈ values.flatMap parts := by
      simp only [List.mem_flatMap, List.mem_eraseDups]
    rw [eraseDups_concat, List.flatMap_append, List.flatMap_append, List.eraseDups_append,
      List.eraseDups_append, hypothesis, removeAll_congr same, List.flatMap_singleton]
    split
    next again =>
      have nothing : (parts value).removeAll (values.flatMap parts) = [] := by
        refine List.filter_eq_nil_iff.2 fun part member new => ?_
        have old : part ∈ values.flatMap parts :=
          List.mem_flatMap_of_mem (List.elem_iff.1 again) member
        rw [List.elem_iff.2 old] at new
        cases new
      rw [nothing]
      rfl
    next => rw [List.flatMap_singleton]

omit [BEq α] [LawfulBEq α] in
/-- Repeated values may be dropped within each part first. -/
theorem eraseDups_flatMap_eraseDups [BEq β] [LawfulBEq β] (parts : α → List β)
    (values : List α) :
    (values.flatMap fun value => (parts value).eraseDups).eraseDups =
      (values.flatMap parts).eraseDups := by
  induction values with
  | nil => rfl
  | cons value rest hypothesis =>
    rw [List.flatMap_cons, List.flatMap_cons, List.eraseDups_append, List.eraseDups_append,
      eraseDups_eraseDups, removeAll_congr (fun _ => List.mem_eraseDups)]
    unfold List.removeAll
    rw [← filter_eraseDups, hypothesis, filter_eraseDups]

end Repeats

namespace LoweringContext

/-- Members are kept where they come first. -/
theorem withoutRepeats_eq (types : List TypeExpr) : withoutRepeats types = types.eraseDups := by
  unfold withoutRepeats
  induction types using List.reverseRecOn with
  | nil => rfl
  | append_singleton types type hypothesis =>
    have among : types.eraseDups.contains type = types.elem type := by
      rw [Bool.eq_iff_iff, List.contains_iff_mem, List.mem_eraseDups, List.elem_iff]
    rw [List.foldl_append, hypothesis, eraseDups_concat, List.foldl_cons, List.foldl_nil, among]
    split
    · exact (List.append_nil _).symm
    · rfl

/-! ### Unions without the absent value -/

/-- The members of a union that leaves the absent value out. -/
def looseMembers (members : List TypeExpr) : List TypeExpr :=
  withoutAbsent (withoutRepeats members)

/-- The members that are not the absent value. -/
def presentMembers (members : List TypeExpr) : List TypeExpr :=
  members.filter fun member => member != .absent

section

variable {members : List TypeExpr}

theorem presentMembers_eq_nil_iff :
    presentMembers members = [] ↔ ∀ member ∈ members, member = .absent := by
  simp [presentMembers]

theorem looseMembers_of_absent (absent : presentMembers members = []) :
    looseMembers members = members.eraseDups := by
  have none : ¬ (members.eraseDups.any fun type => type != .absent) = true := by
    rw [List.any_eq_true]
    rintro ⟨member, inside, present⟩
    exact bne_iff_ne.1 present
      (presentMembers_eq_nil_iff.1 absent member (List.mem_eraseDups.1 inside))
  rw [looseMembers, withoutRepeats_eq, withoutAbsent, if_neg none]

theorem looseMembers_of_present (present : presentMembers members ≠ []) :
    looseMembers members = (presentMembers members).eraseDups := by
  obtain ⟨member, inside⟩ := List.exists_mem_of_ne_nil _ present
  obtain ⟨inside, present⟩ := List.mem_filter.1 inside
  have some : (members.eraseDups.any fun type => type != .absent) = true :=
    List.any_eq_true.2 ⟨member, List.mem_eraseDups.2 inside, present⟩
  rw [looseMembers, withoutRepeats_eq, withoutAbsent, if_pos some, filter_eraseDups,
    presentMembers]

/-- Nothing but the absent value is left out. -/
theorem presentMembers_looseMembers (members : List TypeExpr) :
    presentMembers (looseMembers members) = (presentMembers members).eraseDups := by
  by_cases absent : presentMembers members = []
  · rw [looseMembers_of_absent absent, presentMembers, filter_eraseDups, presentMembers]
  · rw [looseMembers_of_present absent, presentMembers, filter_eraseDups, presentMembers,
      List.filter_filter]
    simp only [Bool.and_self]

theorem mem_of_mem_looseMembers {member : TypeExpr} (inside : member ∈ looseMembers members) :
    member ∈ members := by
  by_cases absent : presentMembers members = []
  · rw [looseMembers_of_absent absent] at inside
    exact List.mem_eraseDups.1 inside
  · rw [looseMembers_of_present absent] at inside
    exact (List.mem_filter.1 (List.mem_eraseDups.1 inside)).1

end

theorem presentMembers_flatMap {α : Type} (parts : α → List TypeExpr) (values : List α) :
    presentMembers (values.flatMap parts) =
      values.flatMap fun value => presentMembers (parts value) :=
  List.filter_flatMap

/-- The absent value may be left out of each part first: where other members are found it is
gone in the end, and where none are found no part loses it. -/
theorem looseMembers_flatMap {α : Type} (parts : α → List TypeExpr) (values : List α) :
    looseMembers (values.flatMap fun value => looseMembers (parts value)) =
      looseMembers (values.flatMap parts) := by
  have same :
      (presentMembers (values.flatMap fun value => looseMembers (parts value))).eraseDups =
        (presentMembers (values.flatMap parts)).eraseDups := by
    simp only [presentMembers_flatMap, presentMembers_looseMembers, eraseDups_flatMap_eraseDups]
  have either : presentMembers (values.flatMap fun value => looseMembers (parts value)) = [] ↔
      presentMembers (values.flatMap parts) = [] := by
    rw [← eraseDups_eq_nil_iff, same, eraseDups_eq_nil_iff]
  by_cases absent : presentMembers (values.flatMap parts) = []
  · have each : (values.flatMap fun value => looseMembers (parts value)) =
        values.flatMap fun value => (parts value).eraseDups := by
      rw [presentMembers_flatMap, List.flatMap_eq_nil_iff] at absent
      exact List.flatMap_congr fun value among => looseMembers_of_absent (absent value among)
    rw [looseMembers_of_absent (either.2 absent), looseMembers_of_absent absent, each,
      eraseDups_flatMap_eraseDups]
  · rw [looseMembers_of_present (mt either.1 absent), looseMembers_of_present absent, same]

/-- Members that came before may be dropped before their parts are taken. -/
theorem looseMembers_flatMap_withoutRepeats (parts : TypeExpr → List TypeExpr)
    (types : List TypeExpr) :
    looseMembers ((withoutRepeats types).flatMap parts) = looseMembers (types.flatMap parts) := by
  have repeated := eraseDups_flatMap_of_eraseDups parts types
  rw [looseMembers, looseMembers, withoutRepeats_eq, withoutRepeats_eq, withoutRepeats_eq,
    repeated]

theorem looseMembers_singleton (type : TypeExpr) : looseMembers [type] = [type] := by
  have single : withoutRepeats [type] = [type] := rfl
  rw [looseMembers, single, withoutAbsent]
  split
  next present =>
    rw [List.any_cons, List.any_nil, Bool.or_false] at present
    rw [List.filter_cons, if_pos present, List.filter_nil]
  next => rfl

theorem looseMembers_looseMembers (members : List TypeExpr) :
    looseMembers (looseMembers members) = looseMembers members := by
  have alone := looseMembers_flatMap id [members]
  rwa [List.flatMap_singleton, List.flatMap_singleton] at alone

end LoweringContext

/-! ### Loosened types -/

namespace TypeExpr

open LoweringContext

mutual

/-- Rebuilds every union in a type, the inner ones first, without the absent value. -/
def loosen : TypeExpr → TypeExpr
  | .union members => LoweringContext.union false (loosenAll members)
  | .builtin name arguments => .builtin name (loosenAll arguments)
  | .named reference arguments => .named reference (loosenAll arguments)
  | .tuple items => .tuple (loosenAll items)
  | .callable parameters result => .callable (loosenGiven parameters) (loosen result)
  | .any => .any
  | .absent => .absent
  | .literal values => .literal values
  | .unknown text => .unknown text

/-- Rebuilds every union in types. -/
def loosenAll : List TypeExpr → List TypeExpr
  | [] => []
  | first :: rest => loosen first :: loosenAll rest

/-- Rebuilds every union in a parameter list. -/
def loosenGiven : Option (List TypeExpr) → Option (List TypeExpr)
  | none => none
  | some types => some (loosenAll types)

end

theorem loosenAll_eq_map (types : List TypeExpr) : loosenAll types = types.map loosen := by
  induction types with
  | nil => rfl
  | cons first rest hypothesis => rw [loosenAll, hypothesis, List.map_cons]

/-- Members that are no unions are those of the union of them, even where one is left. -/
theorem unionMembers_ofMembers {members : List TypeExpr}
    (flat : ∀ member ∈ members, unionMembers member = [member]) :
    unionMembers (ofMembers members) = members := by
  unfold ofMembers
  split
  · exact flat _ List.mem_cons_self
  · rfl

theorem union_loose (types : List TypeExpr) :
    LoweringContext.union false types = ofMembers (looseMembers (types.flatMap unionMembers)) :=
  rfl

mutual

/-- The members of a loosened type are no unions. -/
theorem flat_loosen : (type : TypeExpr) → ∀ member ∈ unionMembers type.loosen,
    unionMembers member = [member]
  | .union members, member, inside => by
    have flat : ∀ member ∈ looseMembers ((loosenAll members).flatMap unionMembers),
        unionMembers member = [member] := by
      intro member inside
      obtain ⟨type, among, within⟩ := List.mem_flatMap.1 (mem_of_mem_looseMembers inside)
      exact flat_loosenAll members type among member within
    rw [loosen, union_loose, unionMembers_ofMembers flat] at inside
    exact flat member inside
  | .builtin _ _, member, inside | .named _ _, member, inside | .tuple _, member, inside
  | .callable _ _, member, inside | .any, member, inside | .absent, member, inside
  | .literal _, member, inside | .unknown _, member, inside => by
    rw [List.mem_singleton.1 inside]
    rfl

theorem flat_loosenAll : (types : List TypeExpr) → ∀ type ∈ loosenAll types,
    ∀ member ∈ unionMembers type, unionMembers member = [member]
  | first :: rest, type, among, member, inside => by
    rw [loosenAll, List.mem_cons] at among
    rcases among with rfl | later
    · exact flat_loosen first member inside
    · exact flat_loosenAll rest type later member inside

end

/-- The members that a type adds to a union once it is loosened. -/
def looseParts (type : TypeExpr) : List TypeExpr :=
  unionMembers type.loosen

theorem union_map_loosen (types : List TypeExpr) :
    LoweringContext.union false (types.map loosen) =
      ofMembers (looseMembers (types.flatMap looseParts)) := by
  rw [union_loose, List.flatMap_map]
  rfl

theorem looseParts_union (members : List TypeExpr) :
    (TypeExpr.union members).looseParts = looseMembers (members.flatMap looseParts) := by
  have flat : ∀ member ∈ looseMembers (members.flatMap looseParts),
      unionMembers member = [member] := by
    intro member inside
    obtain ⟨type, -, within⟩ := List.mem_flatMap.1 (mem_of_mem_looseMembers inside)
    exact flat_loosen type member within
  rw [looseParts, loosen, loosenAll_eq_map, union_map_loosen, unionMembers_ofMembers flat]

/-- A loosened type has the members that its own members come to. -/
theorem looseParts_eq (type : TypeExpr) :
    type.looseParts = looseMembers ((unionMembers type).flatMap looseParts) := by
  cases type with
  | union members => exact looseParts_union members
  | builtin _ _ | named _ _ | tuple _ | callable _ _ | any | absent | literal _ | unknown _ =>
    exact (looseMembers_singleton _).symm

theorem ofMembers_looseParts (type : TypeExpr) : ofMembers type.looseParts = type.loosen := by
  cases type with
  | union members =>
    rw [looseParts_union, loosen, loosenAll_eq_map, union_map_loosen]
  | builtin _ _ | named _ _ | tuple _ | callable _ _ | any | absent | literal _ | unknown _ => rfl

theorem loosen_ofMembers (members : List TypeExpr) :
    (ofMembers members).loosen = ofMembers (looseMembers (members.flatMap looseParts)) := by
  have whole : (TypeExpr.union members).loosen =
      ofMembers (looseMembers (members.flatMap looseParts)) := by
    rw [loosen, loosenAll_eq_map, union_map_loosen]
  match members with
  | [] | _ :: _ :: _ => exact whole
  | [member] =>
    have own : looseMembers member.looseParts = member.looseParts := by
      rw [looseParts_eq, looseMembers_looseMembers]
    rw [List.flatMap_singleton, own, ofMembers_looseParts]
    rfl

/-- A union that is loosened afterwards is the loose union of loosened types. -/
theorem loosen_union (types : List TypeExpr) :
    (LoweringContext.union true types).loosen = LoweringContext.union false (types.map loosen) := by
  have each : types.flatMap looseParts =
      types.flatMap fun type => looseMembers ((unionMembers type).flatMap looseParts) :=
    List.flatMap_congr fun type _ => looseParts_eq type
  calc (LoweringContext.union true types).loosen
      = ofMembers (looseMembers
          ((withoutRepeats (types.flatMap unionMembers)).flatMap looseParts)) :=
        loosen_ofMembers _
    _ = ofMembers (looseMembers ((types.flatMap unionMembers).flatMap looseParts)) := by
        rw [looseMembers_flatMap_withoutRepeats]
    _ = ofMembers (looseMembers (types.flatMap looseParts)) := by
        rw [each, looseMembers_flatMap, List.flatMap_assoc]
    _ = LoweringContext.union false (types.map loosen) := (union_map_loosen types).symm

example :
    (LoweringContext.union true [.builtin "list" [.union [.plain "int", .absent]],
      .builtin "list" [.plain "int"]]).loosen = .builtin "list" [.plain "int"] := by
  rfl

end TypeExpr

end Declarations
