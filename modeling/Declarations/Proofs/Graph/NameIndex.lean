/-
This file proves what the index of the names in a module gives. A declaration that is added writes
its index under its fullname, over that of an earlier one, and nothing else is ever written there.
So looking a fullname up gives the greatest index that has it, and the declarations of a module
determine its index.
-/

import Declarations.Graph.Module
import Declarations.Proofs.NameMap
import Mathlib.Order.Bounds.Basic

namespace Declarations

/-- There is one index of some declarations. -/
theorem NameMap.Indexes.unique {first second : NameMap Nat} {declarations : List Declaration}
    (indexes : first.Indexes declarations) (alsoIndexes : second.Indexes declarations) :
    first = second :=
  NameMap.ext_get? fun fullname => (indexes fullname).trans (alsoIndexes fullname).symm

namespace Declaration

theorem ne_of_lastIndex_eq_none {fullname : String} {declarations : List Declaration}
    {start : Nat} (vain : lastIndex fullname start declarations = none) :
    ∀ declaration ∈ declarations, declaration.fullname ≠ fullname := by
  induction declarations generalizing start with
  | nil => exact fun _ member => nomatch member
  | cons first rest hypothesis =>
    rw [lastIndex] at vain
    cases later : lastIndex fullname (start + 1) rest with
    | some place =>
      rw [later] at vain
      cases vain
    | none =>
      rw [later] at vain
      intro declaration member
      rcases List.mem_cons.1 member with rfl | inRest
      · exact fun same => Option.some_ne_none start ((if_pos same).symm.trans vain)
      · exact hypothesis later declaration inRest

theorem split_of_lastIndex {fullname : String} {declarations : List Declaration}
    {start index : Nat} (found : lastIndex fullname start declarations = some index) :
    ∃ front declaration back, declarations = front ++ declaration :: back ∧
      index = start + front.length ∧ declaration.fullname = fullname ∧
      ∀ later ∈ back, later.fullname ≠ fullname := by
  induction declarations generalizing start with
  | nil => cases found
  | cons first rest hypothesis =>
    rw [lastIndex] at found
    cases later : lastIndex fullname (start + 1) rest with
    | some place =>
      rw [later] at found
      obtain rfl := Option.some.inj found
      obtain ⟨front, declaration, back, rfl, rfl, named, others⟩ := hypothesis later
      refine ⟨first :: front, declaration, back, rfl, ?_, named, others⟩
      rw [List.length_cons, Nat.add_assoc, Nat.add_comm 1]
    | none =>
      rw [later] at found
      obtain ⟨named, same⟩ := Option.ite_none_right_eq_some.1 found
      obtain rfl := Option.some.inj same
      exact ⟨[], first, rest, rfl, rfl, named, ne_of_lastIndex_eq_none later⟩

end Declaration

namespace Module

/-- Modules with the same declarations have the same index of names. -/
theorem ext_of_declarations {first second : Module} (name : first.name = second.name)
    (path : first.path = second.path) (docstring : first.docstring = second.docstring)
    (isPackage : first.isPackage = second.isPackage) (imports : first.imports = second.imports)
    (roots : first.roots = second.roots) (declarations : first.declarations = second.declarations)
    (state : first.state = second.state) : first = second :=
  Module.ext name path docstring isPackage imports roots declarations
    ((declarations ▸ first.indexed).unique second.indexed) state

/-- Whether the declaration at an index has a fullname. -/
def Named (module : Module) (fullname : String) (index : Nat) : Prop :=
  ∃ declaration, module.declaration? index = some declaration ∧ declaration.fullname = fullname

variable {module : Module}

theorem lookup_eq_lastIndex (fullname : String) :
    module.lookup fullname = Declaration.lastIndex fullname 0 module.declarations :=
  module.indexed fullname

theorem ne_of_lookup_eq_none {fullname : String} (vain : module.lookup fullname = none) :
    ∀ declaration ∈ module.declarations, declaration.fullname ≠ fullname :=
  Declaration.ne_of_lastIndex_eq_none ((lookup_eq_lastIndex fullname).symm.trans vain)

theorem isGreatest_of_lookup {fullname : String} {index : Nat}
    (found : module.lookup fullname = some index) :
    IsGreatest {place | module.Named fullname place} index := by
  rw [lookup_eq_lastIndex] at found
  obtain ⟨front, declaration, back, split, same, named, others⟩ :=
    Declaration.split_of_lastIndex found
  rw [Nat.zero_add] at same
  subst same
  refine ⟨⟨declaration, ?_, named⟩, fun place hasName => ?_⟩
  · rw [declaration?, split, List.getElem?_append_right (Nat.le_refl _), Nat.sub_self]
    rfl
  · obtain ⟨other, here, otherNamed⟩ := hasName
    refine Nat.le_of_not_lt fun behind => others other ?_ otherNamed
    rw [declaration?, split, List.getElem?_append_right (Nat.le_of_lt behind),
      ← Nat.sub_add_cancel (Nat.sub_pos_of_lt behind), List.getElem?_cons_succ] at here
    exact List.mem_of_getElem? here

/-- Looking a fullname up gives the greatest index that has it. -/
theorem lookup_eq_some_iff {fullname : String} {index : Nat} :
    module.lookup fullname = some index ↔
      IsGreatest {place | module.Named fullname place} index := by
  refine ⟨isGreatest_of_lookup, fun greatest => ?_⟩
  cases found : module.lookup fullname with
  | some other => rw [(isGreatest_of_lookup found).unique greatest]
  | none =>
    obtain ⟨declaration, here, named⟩ := greatest.1
    exact absurd named (ne_of_lookup_eq_none found declaration (List.mem_of_getElem? here))

end Module

end Declarations
