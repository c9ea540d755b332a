/-
This file proves that sorting the fields of a value puts them in ascending order and adds
nothing: a value that was sorted stays as it is when it is sorted again, its numbers are those it
had, and sorting goes with reading the fields into a map.
-/

import Declarations.Proofs.Json.Order
import Declarations.Proofs.Json.Written
import Declarations.Proofs.NameMap

namespace Declarations.Json

/-! ### Fields -/

theorem entries_ofList (fields : List (String × Json)) :
    (NameMap.ofList fields).entries = sortFields fields := by
  have run : ∀ map : NameMap Json,
      (fields.foldl (fun map field => map.insert field.1 field.2) map).entries =
        fields.foldl (fun sorted field => NameMap.insertEntry field.1 field.2 sorted)
          map.entries := by
    induction fields with
    | nil => exact fun _ => rfl
    | cons field rest hypothesis => exact fun map => hypothesis (map.insert field.1 field.2)
  exact run NameMap.empty

theorem pairwise_sortFields (fields : List (String × Json)) :
    (sortFields fields).Pairwise fun first second => first.1 < second.1 := by
  rw [← entries_ofList]
  exact (NameMap.ofList fields).ascending

theorem mem_of_mem_foldl_insertEntry {field : String × Json} {fields sorted : List (String × Json)}
    (member : field ∈ fields.foldl
      (fun sorted field => NameMap.insertEntry field.1 field.2 sorted) sorted) :
    field ∈ sorted ∨ field ∈ fields := by
  induction fields generalizing sorted with
  | nil => exact .inl member
  | cons first rest hypothesis =>
    rcases hypothesis member with inserted | later
    · rcases NameMap.mem_insertEntry inserted with same | before
      · exact .inr (List.mem_cons.2 (.inl same))
      · exact .inl before
    · exact .inr (List.mem_cons_of_mem _ later)

theorem mem_of_mem_sortFields {field : String × Json} {fields : List (String × Json)}
    (member : field ∈ sortFields fields) : field ∈ fields :=
  (mem_of_mem_foldl_insertEntry member).resolve_left List.not_mem_nil

theorem sortFields_of_ascending {fields : List (String × Json)}
    (ascending : fields.Pairwise fun first second => first.1 < second.1) :
    sortFields fields = fields := by
  rw [← entries_ofList, NameMap.ofList_entries ⟨fields, ascending, fun _ _ => trivial⟩]

theorem sortedFields_of_fixed {fields : List (String × Json)}
    (fixed : ∀ field ∈ fields, field.2.sorted = field.2) : sortedFields fields = fields := by
  rw [sortedFields_eq_map]
  refine (List.map_congr_left fun field member => ?_).trans (List.map_id' _)
  rw [fixed field member]

/-! ### Values -/

mutual

/-- Sorting a second time changes nothing. -/
theorem sorted_sorted : (value : Json) → value.sorted.sorted = value.sorted
  | .null | .bool _ | .integer _ | .decimal _ | .text _ => rfl
  | .list items => congrArg Json.list (sortedItems_sortedItems items)
  | .object fields => by
    have fixed : ∀ field ∈ sortFields (sortedFields fields), field.2.sorted = field.2 :=
      fun field member => sorted_of_mem_sortedFields fields field (mem_of_mem_sortFields member)
    rw [sorted, sorted, sortedFields_of_fixed fixed,
      sortFields_of_ascending (pairwise_sortFields _)]

theorem sortedItems_sortedItems : (items : List Json) →
    sortedItems (sortedItems items) = sortedItems items
  | [] => rfl
  | item :: rest => congrArg₂ List.cons (sorted_sorted item) (sortedItems_sortedItems rest)

theorem sorted_of_mem_sortedFields : (fields : List (String × Json)) →
    ∀ field ∈ sortedFields fields, field.2.sorted = field.2
  | [], _, member => nomatch member
  | (_, value) :: rest, field, member => by
    rcases List.mem_cons.1 member with rfl | later
    · exact sorted_sorted value
    · exact sorted_of_mem_sortedFields rest field later

end

theorem plainFields_iff {fields : List (String × Json)} :
    PlainFields fields ↔ ∀ field ∈ fields, field.2.Plain := by
  induction fields with
  | nil => exact ⟨fun _ _ member => (nomatch member), fun _ => trivial⟩
  | cons field rest hypothesis => rw [PlainFields, hypothesis, List.forall_mem_cons]

mutual

theorem plain_sorted : (value : Json) → value.Plain → value.sorted.Plain
  | .null, _ | .bool _, _ | .text _, _ => trivial
  | .integer _, plain | .decimal _, plain => plain
  | .list items, plain => plainItems_sortedItems items plain
  | .object fields, plain => by
    refine plainFields_iff.2 fun field member => ?_
    exact plain_of_mem_sortedFields fields plain field (mem_of_mem_sortFields member)

theorem plainItems_sortedItems : (items : List Json) → PlainItems items →
    PlainItems (sortedItems items)
  | [], _ => trivial
  | item :: rest, plain => ⟨plain_sorted item plain.1, plainItems_sortedItems rest plain.2⟩

theorem plain_of_mem_sortedFields : (fields : List (String × Json)) → PlainFields fields →
    ∀ field ∈ sortedFields fields, field.2.Plain
  | [], _, _, member => nomatch member
  | (_, value) :: rest, plain, field, member => by
    rcases List.mem_cons.1 member with rfl | later
    · exact plain_sorted value plain.1
    · exact plain_of_mem_sortedFields rest plain.2 field later

end

theorem nestingFields_le {fields : List (String × Json)} {depth : Nat} :
    nestingFields fields ≤ depth ↔ ∀ field ∈ fields, field.2.nesting ≤ depth := by
  induction fields with
  | nil => exact ⟨fun _ _ member => (nomatch member), fun _ => Nat.zero_le _⟩
  | cons field rest hypothesis =>
    rw [nestingFields, Nat.max_le, hypothesis, List.forall_mem_cons]

theorem nestingFields_of_perm {fields others : List (String × Json)}
    (permuted : fields.Perm others) : nestingFields fields = nestingFields others := by
  have bounds (fields : List (String × Json)) :
      ∀ field ∈ fields, field.2.nesting ≤ nestingFields fields :=
    nestingFields_le.1 (Nat.le_refl _)
  exact Nat.le_antisymm
    (nestingFields_le.2 fun field member => bounds others field (permuted.mem_iff.1 member))
    (nestingFields_le.2 fun field member => bounds fields field (permuted.mem_iff.2 member))

/-- Sorting moves brackets and takes none away, where no field is repeated. -/
theorem nesting_sorted_object {fields : List (String × Json)}
    (distinct : (fields.map (·.1)).Nodup) :
    (object fields).sorted.nesting = nestingFields (sortedFields fields) + 1 := by
  have distinctInside : ((sortedFields fields).map (·.1)).Nodup := by
    rwa [sortedFields_eq_map, List.map_map]
  exact congrArg (· + 1) (nestingFields_of_perm (perm_sortFields distinctInside))

end Declarations.Json
