/-
This file proves that a map is determined by what it answers, and so that a map which is made
by inserting what was computed from the entries of another is that map, changed.
-/

import Declarations.NameMap
import Mathlib.Data.List.Sort

namespace Declarations.NameMap

variable {α β : Type} {Fits : String → α → Prop}

/-- Two maps that answer every name alike are equal. -/
theorem ext_get? {first second : NameMap α Fits}
    (same : ∀ name, first.get? name = second.get? name) : first = second := by
  have irreflexive : Std.Irrefl fun first second : String × α => first.1 < second.1 :=
    ⟨fun entry => String.lt_irrefl entry.1⟩
  have antisymmetric : Std.Antisymm fun first second : String × α => first.1 < second.1 :=
    ⟨fun _ _ below above => absurd (String.lt_trans below above) (String.lt_irrefl _)⟩
  have entries : first.entries = second.entries := by
    refine first.ascending.eq_of_mem_iff second.ascending ?_
    rintro ⟨name, value⟩
    constructor
    · intro member
      exact mem_of_get? _ ((same name).symm.trans (get?_of_mem _ member))
    · intro member
      exact mem_of_get? _ ((same name).trans (get?_of_mem _ member))
  cases first
  cases second
  cases entries
  rfl

/-- Values are put under different names in any order. -/
theorem insert_comm (map : NameMap α Fits) {name other : String} (different : name ≠ other)
    (value otherValue : α) {fits : Fits name value} {otherFits : Fits other otherValue} :
    (map.insert name value fits).insert other otherValue otherFits =
      (map.insert other otherValue otherFits).insert name value fits := by
  refine ext_get? fun wanted => ?_
  by_cases isName : wanted = name
  · subst isName
    rw [get?_insert_other _ _ different, get?_insert_self, get?_insert_self]
  · rw [get?_insert_other _ value isName]
    by_cases isOther : wanted = other
    · subst isOther
      rw [get?_insert_self, get?_insert_self]
    · rw [get?_insert_other _ _ isOther, get?_insert_other _ _ isOther,
        get?_insert_other _ _ isName]

theorem insertAll_eq_foldl (map : NameMap α) (entries : List (String × α))
    (fit : ∀ entry ∈ entries, True) :
    map.insertAll entries fit =
      entries.foldl (fun map entry => map.insert entry.1 entry.2) map := by
  induction entries generalizing map with
  | nil => rfl
  | cons first rest hypothesis => exact hypothesis _ _

theorem mem_values_of_get? {map : NameMap α Fits} {name : String} {value : α}
    (found : map.get? name = some value) : value ∈ map.values :=
  List.mem_map.2 ⟨(name, value), map.mem_of_get? found, rfl⟩

theorem foldl_insert_eq_map (change : α → β) (source : NameMap α Fits) :
    source.entries.foldl (fun map entry => map.insert entry.1 (change entry.2)) empty =
      source.map change := by
  have folded : (source.map change).entries.foldl
      (fun (map : NameMap β) entry => map.insert entry.1 entry.2) empty =
        source.entries.foldl (fun map entry => map.insert entry.1 (change entry.2)) empty :=
    List.foldl_map
  refine folded.symm.trans (ext_get? fun name => ?_)
  have answered := get?_insertAll (source.map change).entries (empty : NameMap β) name
    (source.map change).fits (source.map change).ascending
  rw [insertAll_eq_foldl] at answered
  refine answered.trans ?_
  rw [get?_empty, Option.or_none]
  rfl

theorem alter_of_fixed {change : α → α} {keeps : ∀ name value, Fits name value →
    Fits name (change value)} {source : NameMap α Fits}
    (fixed : ∀ value ∈ source.values, change value = value) :
    source.alter change keeps = source := by
  refine ext_get? fun name => ?_
  rw [get?_alter]
  cases found : source.get? name with
  | none => rfl
  | some value =>
    rw [Option.map_some, fixed value (mem_values_of_get? found)]

theorem ofList_entries (source : NameMap α) : ofList source.entries = source :=
  (foldl_insert_eq_map id source).trans (alter_of_fixed fun _ _ => rfl)

theorem get?_foldl_insert_cases {entries : List (String × α)} {map : NameMap α} {name : String}
    {value : α}
    (found : (entries.foldl (fun map (name, value) => map.insert name value) map).get? name =
      some value) : (name, value) ∈ entries ∨ map.get? name = some value := by
  induction entries generalizing map with
  | nil => exact .inr found
  | cons first rest hypothesis =>
    rcases hypothesis found with later | here
    · exact .inl (List.mem_cons_of_mem _ later)
    · by_cases same : name = first.1
      · subst same
        rw [get?_insert_self, Option.some_inj] at here
        exact .inl (here ▸ List.mem_cons_self)
      · exact .inr (get?_insert_other map first.2 same ▸ here)

/-- What stands in a map of some entries is one of them. -/
theorem mem_of_get?_ofList {entries : List (String × α)} {name : String} {value : α}
    (found : (ofList entries).get? name = some value) : (name, value) ∈ entries :=
  (get?_foldl_insert_cases found).resolve_right nofun

theorem contains_foldl_insert {entries : List (String × α)} {map : NameMap α} {name : String}
    {value : α} (known : (name, value) ∈ entries ∨ map.contains name = true) :
    (entries.foldl (fun map (name, value) => map.insert name value) map).contains name = true := by
  induction entries generalizing map with
  | nil => exact known.resolve_left List.not_mem_nil
  | cons first rest hypothesis =>
    by_cases same : name = first.1
    · refine hypothesis (.inr ?_)
      subst same
      rw [contains, get?_insert_self]
      rfl
    · refine hypothesis (known.imp (fun member => ?_) fun there => ?_)
      · exact (List.mem_cons.1 member).resolve_left fun here => same (here ▸ rfl)
      · rwa [contains, get?_insert_other map first.2 same]

/-- Each entry that a map is made of has its name there. -/
theorem contains_ofList {entries : List (String × α)} {name : String} {value : α}
    (member : (name, value) ∈ entries) : (ofList entries).contains name = true :=
  contains_foldl_insert (.inl member)

theorem alter_merge {Suits : String → β → Prop} {change : α → β}
    {keeps : ∀ name value, Fits name value → Suits name (change value)}
    (first second : NameMap α Fits) :
    (first.merge second).alter change keeps =
      (first.alter change keeps).merge (second.alter change keeps) := by
  refine ext_get? fun name => ?_
  rw [get?_alter, get?_merge, get?_merge, get?_alter, get?_alter]
  cases second.get? name <;> rfl

theorem mem_entries_iff {source : NameMap α Fits} {name : String} {value : α} :
    (name, value) ∈ source.entries ↔ source.get? name = some value :=
  ⟨source.get?_of_mem, source.mem_of_get?⟩

theorem mem_names_iff {source : NameMap α Fits} {name : String} :
    name ∈ source.names ↔ source.contains name := by
  rw [names, List.mem_map, contains, Option.isSome_iff_exists]
  constructor
  · rintro ⟨⟨name, value⟩, member, rfl⟩
    exact ⟨value, mem_entries_iff.1 member⟩
  · rintro ⟨value, found⟩
    exact ⟨(name, value), mem_entries_iff.2 found, rfl⟩

theorem size_insert {map : NameMap α Fits} {name : String} (value : α) {fits : Fits name value}
    (new : name ∉ map.names) : (map.insert name value fits).size = map.size + 1 := by
  have length (entries : List (String × α)) (new : name ∉ entries.map (·.1)) :
      (insertEntry name value entries).length = entries.length + 1 := by
    induction entries with
    | nil => rfl
    | cons first rest inductionHypothesis =>
      rw [List.map_cons, List.mem_cons, not_or] at new
      unfold insertEntry
      rw [if_neg new.1]
      split
      · rfl
      · rw [List.length_cons, inductionHypothesis new.2, List.length_cons]
  exact length map.entries new

theorem mem_names_insert {map : NameMap α Fits} {name other : String} (value : α)
    {fits : Fits name value} :
    other ∈ (map.insert name value fits).names ↔ other = name ∨ other ∈ map.names := by
  rw [mem_names_iff, mem_names_iff, contains, contains]
  by_cases same : other = name
  · subst same
    rw [get?_insert_self]
    exact ⟨fun _ => .inl rfl, fun _ => rfl⟩
  · rw [get?_insert_other _ _ same]
    exact ⟨.inr, fun either => either.resolve_left same⟩

/-- Values are searched by name, so the first that is found has the least name. -/
theorem find?_values_eq_some_iff {map : NameMap α Fits} {test : α → Bool} {value : α} :
    map.values.find? test = some value ↔
      ∃ name, map.get? name = some value ∧ test value = true ∧
        ∀ other found, map.get? other = some found → test found = true → name ≤ other := by
  rw [values, List.find?_map, Option.map_eq_some_iff]
  simp only [List.find?_eq_some_iff_append, ← mem_entries_iff]
  constructor
  · rintro ⟨⟨name, value⟩, ⟨passes, before, after, split, fails⟩, rfl⟩
    refine ⟨name, split ▸ by simp, passes, fun other found member alsoPasses => ?_⟩
    have ordered := map.ascending
    rw [split, List.pairwise_append, List.pairwise_cons] at ordered
    rw [split, List.mem_append, List.mem_cons] at member
    rcases member with earlier | same | later
    · have fail := fails _ earlier
      rw [Function.comp_apply, alsoPasses] at fail
      cases fail
    · obtain ⟨rfl, rfl⟩ := Prod.mk.inj same
      exact String.le_refl _
    · exact String.not_lt.mp (String.lt_asymm (ordered.2.1.1 _ later))
  · rintro ⟨name, member, passes, least⟩
    obtain ⟨before, after, split⟩ := List.append_of_mem member
    refine ⟨(name, value), ⟨passes, before, after, split, fun entry earlier => ?_⟩, rfl⟩
    have ordered := map.ascending
    rw [split, List.pairwise_append] at ordered
    have below := ordered.2.2 entry earlier (name, value) List.mem_cons_self
    rw [Bool.not_eq_true', Bool.eq_false_iff]
    intro alsoPasses
    exact String.not_lt.mpr
      (least entry.1 entry.2 (split ▸ List.mem_append_left _ earlier) alsoPasses) below

theorem nodup_entries (source : NameMap α Fits) : source.entries.Nodup := by
  refine List.Pairwise.imp ?_ source.ascending
  rintro entry _ below rfl
  exact String.lt_irrefl _ below

/-- The entries of a map that are to be kept. -/
def filter (keep : String × α → Bool) (source : NameMap α Fits) : NameMap α Fits where
  entries := source.entries.filter keep
  ascending := source.ascending.sublist List.filter_sublist
  fits entry member := source.fits entry (List.mem_of_mem_filter member)

theorem get?_filter (keep : String × α → Bool) (source : NameMap α Fits) (name : String) :
    (source.filter keep).get? name =
      (source.get? name).filter fun value => keep (name, value) := by
  refine Option.ext fun value => ?_
  rw [← mem_entries_iff, Option.filter_eq_some_iff, ← mem_entries_iff]
  exact List.mem_filter

theorem values_filter (keep : α → Bool) (source : NameMap α Fits) :
    (source.filter fun entry => keep entry.2).values = source.values.filter keep := by
  rw [values, values, List.filter_map]
  rfl

theorem mem_values_merge {first second : NameMap α Fits} {value : α}
    (member : value ∈ (first.merge second).values) :
    value ∈ first.values ∨ value ∈ second.values := by
  obtain ⟨⟨name, found⟩, inside, rfl⟩ := List.mem_map.1 member
  rw [mem_entries_iff, get?_merge, Option.or_eq_some_iff] at inside
  rcases inside with inSecond | ⟨-, inFirst⟩
  · exact Or.inr (mem_values_of_get? inSecond)
  · exact Or.inl (mem_values_of_get? inFirst)

/-- Two maps without a common name hold together what they hold one by one. -/
theorem values_merge {first second : NameMap α Fits}
    (apart : ∀ name, first.contains name → ¬ second.contains name) :
    (first.merge second).values.Perm (first.values ++ second.values) := by
  have either (name : String) : first.get? name = none ∨ second.get? name = none := by
    have inOne := apart name
    simp only [contains, Option.isSome_iff_ne_none] at inOne
    by_cases inFirst : first.get? name = none
    · exact Or.inl inFirst
    · exact Or.inr (not_not.1 (inOne inFirst))
  have nodup : (first.entries ++ second.entries).Nodup := by
    refine List.nodup_append'.2 ⟨first.nodup_entries, second.nodup_entries, ?_⟩
    rintro ⟨name, value⟩ inFirst inSecond
    have found := mem_entries_iff.1 inFirst
    have alsoFound := mem_entries_iff.1 inSecond
    rcases either name with absent | absent
    · cases found.symm.trans absent
    · cases alsoFound.symm.trans absent
  have entries : (first.merge second).entries.Perm (first.entries ++ second.entries) := by
    refine (List.perm_ext_iff_of_nodup (nodup_entries _) nodup).2 ?_
    rintro ⟨name, value⟩
    rw [List.mem_append, mem_entries_iff, mem_entries_iff, mem_entries_iff, get?_merge]
    rcases either name with absent | absent <;> simp [absent]
  rw [values, values, values, ← List.map_append]
  exact entries.map _

end Declarations.NameMap
