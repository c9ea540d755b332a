/-
This file proves where relative imports lead. They start from the package of a module, which is
the module itself where it is a package and what it stands in otherwise; each dot after the first
leaves out one more part at the end, and what is left comes in front of the name that the import
gives. So the modules right inside a package import as the package itself does.
-/

import Declarations.Lowering.Imports
import Declarations.Proofs.Text.Dotted
import Mathlib.Data.List.DropRight

namespace Declarations

namespace Dotted

/-- Two dotted names, one behind the other. An empty one counts for nothing. -/
def beside (front back : String) : String :=
  if front = "" then back else if back = "" then front else below front back

/-- Whether parts are those of a dotted name none of whose parts is empty. -/
structure ArePlain (names : List String) : Prop where
  filled : names ≠ []
  nonempty : ∀ name ∈ names, name ≠ ""
  undotted : ∀ name ∈ names, '.' ∉ name.toList

theorem parts_join {names : List String} (plain : ArePlain names) : parts (join names) = names := by
  have pieces : (names.map String.toList) ≠ [] := mt List.map_eq_nil_iff.1 plain.filled
  have undotted : ∀ piece ∈ names.map String.toList, '.' ∉ piece :=
    List.forall_mem_map.2 plain.undotted
  have back : String.ofList ∘ String.toList = id := funext fun name => String.ofList_toList
  rw [parts, join, String.toList_intercalate]
  show ((['.'].intercalate (names.map String.toList)).splitOn '.').map String.ofList = names
  rw [List.splitOn_intercalate '.' undotted pieces, List.map_map, back, List.map_id]

theorem parts_below {name child : String} (undotted : '.' ∉ child.toList) :
    parts (below name child) = parts name ++ [child] := by
  rw [parts, toList_below, List.splitOn_append_cons_self, List.map_append,
    List.splitOn_eq_singleton undotted, List.map_singleton, String.ofList_toList]
  rfl

theorem join_ne_empty {names : List String} (plain : ArePlain names) : join names ≠ "" := by
  intro empty
  have whole := parts_join plain
  rw [empty] at whole
  exact plain.nonempty "" (whole ▸ List.mem_singleton_self _) rfl

/-- The first parts of a name are plain, unless there are none. -/
theorem ArePlain.sublist {names kept : List String} (plain : ArePlain names)
    (sublist : kept.Sublist names) (filled : kept ≠ []) : ArePlain kept where
  filled := filled
  nonempty name member := plain.nonempty name (sublist.subset member)
  undotted name member := plain.undotted name (sublist.subset member)

theorem join_append_origin {kept : List String} (plain : kept ≠ [] → ArePlain kept)
    (origin : String) :
    join (if origin.isEmpty then kept else kept ++ [origin]) = beside (join kept) origin := by
  by_cases none : kept = []
  · subst none
    by_cases empty : origin = ""
    · subst empty
      rfl
    · have filled : ¬ origin.isEmpty = true := fun holds => empty (String.isEmpty_iff.1 holds)
      rw [if_neg filled]
      exact String.intercalate_singleton
  · have front := join_ne_empty (plain none)
    rw [beside, if_neg front]
    by_cases empty : origin = ""
    · rw [if_pos empty, if_pos (String.isEmpty_iff.2 empty)]
    · have filled : ¬ origin.isEmpty = true := fun holds => empty (String.isEmpty_iff.1 holds)
      have only : join [origin] = origin := String.intercalate_singleton
      rw [if_neg empty, if_neg filled, join_append none (List.cons_ne_nil _ _), only]

end Dotted

/-! ### Packages -/

/-- The parts of the package that the relative imports of a module start from. -/
def packageOf (isPackage : Bool) (names : List String) : List String :=
  if isPackage then names else names.dropLast

/-- Dropping one part more of a module than of its package leaves the same. -/
theorem take_eq_rdrop_packageOf (isPackage : Bool) (names : List String) {level : Nat}
    (climbs : 1 ≤ level) :
    names.take (names.length - if isPackage then level - 1 else level) =
      (packageOf isPackage names).rdrop (level - 1) := by
  cases isPackage with
  | true => rfl
  | false =>
    show names.take (names.length - level) = names.dropLast.rdrop (level - 1)
    rw [List.rdrop, List.length_dropLast, List.dropLast_eq_take, List.take_take]
    congr 1
    omega

theorem rdrop_packageOf_sublist (isPackage : Bool) (names : List String) (count : Nat) :
    ((packageOf isPackage names).rdrop count).Sublist names := by
  refine (List.take_sublist _ _).trans ?_
  cases isPackage with
  | true => exact List.Sublist.refl _
  | false => exact List.dropLast_sublist _

section

variable {level : Nat} (climbs : 1 ≤ level) (origin : String) (members : List ImportedName)
  (line : Nat)

include climbs

/-- Where a relative import leads depends on the package of the module only. -/
theorem absoluteModule_eq (name : String) (isPackage : Bool) :
    absoluteModule name isPackage ⟨origin, members, .relative level, line⟩ =
      let kept := (packageOf isPackage (Dotted.parts name)).rdrop (level - 1)
      Dotted.join (if origin.isEmpty then kept else kept ++ [origin]) := by
  rw [absoluteModule]
  dsimp only
  rw [take_eq_rdrop_packageOf isPackage _ climbs]

/-- A relative import leads to its package without as many parts at the end as it has dots after
the first, and from there to the name it gives. With more dots than the package has parts it leads
to this name alone. Imports in a package and in the modules right inside it lead to the same
modules, and bind the same. -/
theorem absoluteModule_relative :
    let entry : Import := ⟨origin, members, .relative level, line⟩
    (∀ (names : List String) (isPackage : Bool), Dotted.ArePlain names →
      let package := packageOf isPackage names
      let found := absoluteModule (Dotted.join names) isPackage entry
      found = Dotted.beside (Dotted.join (package.rdrop (level - 1))) origin ∧
        (package.length < level → found = origin)) ∧
    ∀ name child : String, '.' ∉ child.toList →
      absoluteModule name true entry = absoluteModule (Dotted.below name child) false entry ∧
      ∀ bindings, ImportBindings.add name true bindings entry =
        ImportBindings.add (Dotted.below name child) false bindings entry := by
  intro entry
  constructor
  · intro names isPackage plain package found
    have same : found = Dotted.beside (Dotted.join (package.rdrop (level - 1))) origin := by
      have kept := plain.sublist (rdrop_packageOf_sublist isPackage names (level - 1))
      have whole := absoluteModule_eq climbs origin members line (Dotted.join names) isPackage
      rw [Dotted.parts_join plain] at whole
      exact whole.trans (Dotted.join_append_origin kept origin)
    refine ⟨same, fun above => ?_⟩
    have none : package.rdrop (level - 1) = [] := by
      rw [List.rdrop, Nat.sub_eq_zero_of_le (Nat.le_sub_one_of_lt above), List.take_zero]
    rw [same, none]
    rfl
  · intro name child undotted
    have package : packageOf false (Dotted.parts (Dotted.below name child)) =
        packageOf true (Dotted.parts name) := by
      rw [Dotted.parts_below undotted]
      exact List.dropLast_concat
    have same : absoluteModule name true entry =
        absoluteModule (Dotted.below name child) false entry := by
      rw [absoluteModule_eq climbs, absoluteModule_eq climbs, package]
    refine ⟨same, fun bindings => ?_⟩
    rw [ImportBindings.add, ImportBindings.add]
    dsimp only
    rw [same]

end

/-- An import with two dots in a module three levels deep and in a package two levels deep, and one
with too many dots. -/
theorem absoluteModule_relative_helpers :
    let entry (level : Nat) (origin : String) : Import := ⟨origin, [], .relative level, 1⟩
    1 ≤ 2 ∧ 1 ≤ 4 ∧ Dotted.ArePlain ["app", "utils", "helpers"] ∧
      absoluteModule "app.utils.helpers" false (entry 2 "core.names") = "app.core.names" ∧
      absoluteModule "app.utils.helpers" false (entry 2 "") = "app" ∧
      absoluteModule "app.utils.helpers" true (entry 2 "core") = "app.utils.core" ∧
      absoluteModule "app.utils.helpers" false (entry 4 "core") = "core" ∧
      '.' ∉ "helpers".toList ∧
      absoluteModule "app.utils" true (entry 2 "core") =
        absoluteModule (Dotted.below "app.utils" "helpers") false (entry 2 "core") := by
  intro entry
  have plain : Dotted.ArePlain ["app", "utils", "helpers"] := ⟨by decide, by decide, by decide⟩
  have name : Dotted.join ["app", "utils", "helpers"] = "app.utils.helpers" := by decide
  have two : 1 ≤ 2 := by decide
  have four : 1 ≤ 4 := by decide
  have undotted : '.' ∉ "helpers".toList := by decide
  have named := ((absoluteModule_relative two "core.names" [] 1).1 _ false plain).1
  have bare := ((absoluteModule_relative two "" [] 1).1 _ false plain).1
  have package := ((absoluteModule_relative two "core" [] 1).1 _ true plain).1
  have above := ((absoluteModule_relative four "core" [] 1).1 _ false plain).2 (by decide)
  have alike := ((absoluteModule_relative two "core" [] 1).2 "app.utils" "helpers" undotted).1
  rw [name] at named bare package above
  exact ⟨two, four, plain, named.trans (by decide), bare.trans (by decide),
    package.trans (by decide), above, undotted, alike⟩

end Declarations
