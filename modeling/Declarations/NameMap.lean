/-
This file holds maps from names to values. The entries of a map are kept in ascending
order of their names, each name once, so two maps that answer every name alike are
equal, and going through a map in order is going through its entries. A map may also ask
of each value that it fits its name.
-/

namespace Declarations

/-- A map from names to values, as entries in ascending order of their names. Where it is asked
for, each value fits its name. -/
structure NameMap (α : Type) (Fits : String → α → Prop := fun _ _ => True) where
  entries : List (String × α)
  ascending : entries.Pairwise fun first second => first.1 < second.1
  fits : ∀ entry ∈ entries, Fits entry.1 entry.2
deriving DecidableEq, Repr

namespace NameMap

variable {α : Type} {Fits : String → α → Prop}

/-- The map without entries. -/
def empty : NameMap α Fits :=
  ⟨[], List.Pairwise.nil, fun _ member => nomatch member⟩

instance : Inhabited (NameMap α Fits) := ⟨empty⟩

/-- Puts an entry in its place; it replaces one of the same name. -/
def insertEntry (name : String) (value : α) : List (String × α) → List (String × α)
  | [] => [(name, value)]
  | entry :: rest =>
    if name < entry.1 then (name, value) :: entry :: rest
    else if name = entry.1 then (name, value) :: rest
    else entry :: insertEntry name value rest

theorem mem_insertEntry {name : String} {value : α} {entries : List (String × α)}
    {entry : String × α} (member : entry ∈ insertEntry name value entries) :
    entry = (name, value) ∨ entry ∈ entries := by
  induction entries with
  | nil => exact Or.inl (List.mem_singleton.1 member)
  | cons first rest hypothesis =>
    unfold insertEntry at member
    split at member
    · exact List.mem_cons.1 member
    · split at member
      · rcases List.mem_cons.1 member with same | old
        · exact Or.inl same
        · exact Or.inr (List.mem_cons_of_mem _ old)
      · rcases List.mem_cons.1 member with same | later
        · exact Or.inr (same ▸ List.mem_cons_self)
        · rcases hypothesis later with same | old
          · exact Or.inl same
          · exact Or.inr (List.mem_cons_of_mem _ old)

theorem pairwise_insertEntry (name : String) (value : α) {entries : List (String × α)}
    (ascending : entries.Pairwise fun first second => first.1 < second.1) :
    (insertEntry name value entries).Pairwise fun first second => first.1 < second.1 := by
  induction entries with
  | nil => exact List.pairwise_singleton _ _
  | cons first rest hypothesis =>
    obtain ⟨least, others⟩ := List.pairwise_cons.1 ascending
    unfold insertEntry
    split
    next below =>
      refine List.pairwise_cons.2 ⟨fun entry member => ?_, ascending⟩
      rcases List.mem_cons.1 member with same | later
      · exact same ▸ below
      · exact String.lt_trans below (least entry later)
    next notBelow =>
      split
      next same =>
        exact List.pairwise_cons.2 ⟨fun entry member => same ▸ least entry member, others⟩
      next different =>
        have above : first.1 < name :=
          Std.lt_of_le_of_ne (String.not_lt.1 notBelow) fun same => different same.symm
        refine List.pairwise_cons.2 ⟨fun entry member => ?_, hypothesis others⟩
        rcases mem_insertEntry member with same | old
        · exact same ▸ above
        · exact least entry old

/-- The map with one more entry; it replaces one of the same name. -/
def insert (map : NameMap α Fits) (name : String) (value : α)
    (fitsName : Fits name value := by trivial) : NameMap α Fits where
  entries := insertEntry name value map.entries
  ascending := pairwise_insertEntry name value map.ascending
  fits entry member := by
    rcases mem_insertEntry member with rfl | old
    · exact fitsName
    · exact map.fits entry old

/-- The value under a name. -/
def get? (map : NameMap α Fits) (name : String) : Option α :=
  map.entries.lookup name

/-- Whether a name has a value. -/
def contains (map : NameMap α Fits) (name : String) : Bool :=
  (map.get? name).isSome

/-- The map without the entry of a name. -/
def erase (map : NameMap α Fits) (name : String) : NameMap α Fits where
  entries := map.entries.filter fun entry => entry.1 != name
  ascending := map.ascending.sublist List.filter_sublist
  fits entry member := map.fits entry (List.mem_filter.1 member).1

/-- The names, in order. -/
def names (map : NameMap α Fits) : List String :=
  map.entries.map (·.1)

/-- The values, in the order of their names. -/
def values (map : NameMap α Fits) : List α :=
  map.entries.map (·.2)

/-- How many names there are. -/
def size (map : NameMap α Fits) : Nat :=
  map.entries.length

/-- Changes every value into one that fits the name as well. -/
def alter {β : Type} {Suits : String → β → Prop} (change : α → β)
    (keeps : ∀ name value, Fits name value → Suits name (change value))
    (source : NameMap α Fits) : NameMap β Suits where
  entries := source.entries.map fun (name, value) => (name, change value)
  ascending := by
    refine List.pairwise_map.2 (source.ascending.imp ?_)
    exact fun below => below
  fits := by
    intro _ member
    obtain ⟨entry, inside, rfl⟩ := List.mem_map.1 member
    exact keeps _ _ (source.fits entry inside)

/-- Changes every value. -/
def map {β : Type} (change : α → β) (source : NameMap α Fits) : NameMap β :=
  source.alter change fun _ _ _ => trivial

/-- The map of some entries; the last value of a name stays. -/
def ofList (entries : List (String × α)) : NameMap α :=
  entries.foldl (fun map (name, value) => map.insert name value) empty

/-- Puts entries into a map that fit their names. -/
def insertAll (map : NameMap α Fits) : (entries : List (String × α)) →
    (∀ entry ∈ entries, Fits entry.1 entry.2) → NameMap α Fits
  | [], _ => map
  | entry :: rest, fit =>
    (map.insert entry.1 entry.2 (fit entry List.mem_cons_self)).insertAll rest fun other later =>
      fit other (List.mem_cons_of_mem _ later)

/-- The entries of both maps; those of the second win. -/
def merge (first second : NameMap α Fits) : NameMap α Fits :=
  first.insertAll second.entries second.fits

theorem lookup_insertEntry_self (name : String) (value : α) (entries : List (String × α)) :
    (insertEntry name value entries).lookup name = some value := by
  induction entries with
  | nil => simp [insertEntry]
  | cons first rest hypothesis =>
    unfold insertEntry
    split
    · simp
    · split
      · simp
      next different =>
        rw [List.lookup_cons, beq_eq_false_iff_ne.2 different]
        exact hypothesis

theorem lookup_insertEntry_other {name other : String} (value : α) (entries : List (String × α))
    (different : other ≠ name) :
    (insertEntry name value entries).lookup other = entries.lookup other := by
  have unequal : (other == name) = false := beq_eq_false_iff_ne.2 different
  induction entries with
  | nil => simp only [insertEntry, List.lookup_cons, unequal]
  | cons first rest hypothesis =>
    unfold insertEntry
    split
    · rw [List.lookup_cons, unequal]
    · split
      next same =>
        rw [List.lookup_cons, List.lookup_cons, ← same, unequal]
      · rw [List.lookup_cons, List.lookup_cons, hypothesis]

theorem get?_empty (name : String) : (empty : NameMap α Fits).get? name = none := rfl

theorem get?_insert_self (map : NameMap α Fits) (name : String) (value : α)
    {fits : Fits name value} : (map.insert name value fits).get? name = some value :=
  lookup_insertEntry_self name value map.entries

theorem get?_insert_other (map : NameMap α Fits) {name other : String} (value : α)
    {fits : Fits name value} (different : other ≠ name) :
    (map.insert name value fits).get? other = map.get? other :=
  lookup_insertEntry_other value map.entries different

theorem lookup_of_mem {entries : List (String × α)} {name : String} {value : α}
    (ascending : entries.Pairwise fun first second => first.1 < second.1)
    (member : (name, value) ∈ entries) : entries.lookup name = some value := by
  induction entries with
  | nil => cases member
  | cons first rest hypothesis =>
    obtain ⟨least, others⟩ := List.pairwise_cons.1 ascending
    rcases List.mem_cons.1 member with same | later
    · rw [← same, List.lookup_cons_self]
    · have different : (name == first.1) = false :=
        beq_eq_false_iff_ne.2 fun same => String.lt_irrefl _ (same ▸ least _ later)
      rw [List.lookup_cons, different]
      exact hypothesis others later

theorem get?_of_mem (map : NameMap α Fits) {name : String} {value : α}
    (member : (name, value) ∈ map.entries) : map.get? name = some value :=
  lookup_of_mem map.ascending member

theorem mem_of_lookup {entries : List (String × α)} {name : String} {value : α}
    (found : entries.lookup name = some value) : (name, value) ∈ entries := by
  induction entries with
  | nil => cases found
  | cons first rest hypothesis =>
    rw [List.lookup_cons] at found
    split at found
    next same =>
      rw [eq_of_beq same, ← Option.some.inj found]
      exact List.mem_cons_self
    next => exact List.mem_cons_of_mem _ (hypothesis found)

theorem mem_of_get? (map : NameMap α Fits) {name : String} {value : α}
    (found : map.get? name = some value) : (name, value) ∈ map.entries :=
  mem_of_lookup found

theorem fits_of_get? (map : NameMap α Fits) {name : String} {value : α}
    (found : map.get? name = some value) : Fits name value :=
  map.fits (name, value) (map.mem_of_get? found)

theorem get?_insertAll (entries : List (String × α)) (map : NameMap α Fits) (name : String)
    (fit : ∀ entry ∈ entries, Fits entry.1 entry.2)
    (ascending : entries.Pairwise fun first second => first.1 < second.1) :
    (map.insertAll entries fit).get? name = (entries.lookup name).or (map.get? name) := by
  induction entries generalizing map with
  | nil => rfl
  | cons first rest hypothesis =>
    obtain ⟨least, others⟩ := List.pairwise_cons.1 ascending
    rw [insertAll, hypothesis _ _ others, List.lookup_cons]
    cases same : name == first.1 with
    | true =>
      obtain rfl := eq_of_beq same
      have absent : rest.lookup first.1 = none := by
        cases found : rest.lookup first.1 with
        | none => rfl
        | some value => exact absurd (least _ (mem_of_lookup found)) (String.lt_irrefl _)
      rw [absent]
      exact get?_insert_self map first.1 first.2
    | false => rw [get?_insert_other map first.2 (beq_eq_false_iff_ne.1 same)]

theorem get?_merge (first second : NameMap α Fits) (name : String) :
    (first.merge second).get? name = (second.get? name).or (first.get? name) :=
  get?_insertAll second.entries first name second.fits second.ascending

section

variable {β : Type} {change : α → β} {Suits : String → β → Prop}
  {keeps : ∀ name value, Fits name value → Suits name (change value)}

theorem get?_alter (source : NameMap α Fits) (name : String) :
    (source.alter change keeps).get? name = (source.get? name).map change := by
  show (source.entries.map fun (name, value) => (name, change value)).lookup name =
    (source.entries.lookup name).map change
  induction source.entries with
  | nil => rfl
  | cons first rest hypothesis =>
    rw [List.map_cons, List.lookup_cons, List.lookup_cons, hypothesis]
    split <;> rfl

theorem values_alter (source : NameMap α Fits) :
    (source.alter change keeps).values = source.values.map change := by
  simp only [values, alter, List.map_map]
  rfl

theorem names_alter (source : NameMap α Fits) :
    (source.alter change keeps).names = source.names := by
  simp only [names, alter, List.map_map]
  rfl

end

theorem get?_map {β : Type} (change : α → β) (source : NameMap α Fits) (name : String) :
    (source.map change).get? name = (source.get? name).map change :=
  get?_alter source name

theorem names_map {β : Type} (change : α → β) (source : NameMap α Fits) :
    (source.map change).names = source.names :=
  names_alter source

end NameMap

end Declarations
