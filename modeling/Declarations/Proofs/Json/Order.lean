/-
This file proves that the order in which the fields of a record stand does not matter to what is
read of it, as long as each stands there once. So a record that was written is read alike from its
text, where the fields stand as they were written, and from a value that was read as a whole,
where they are in ascending order. Nor do the fields matter that a record passes over: records that
share an object are read one by one, each from its own fields.
-/

import Declarations.Json.Shape
import Mathlib.Data.List.Perm.Basic

namespace Declarations.Json

/-! ### Fields in another order -/

section

variable {α : Type} {fields others : List (String × α)}

theorem nodup_names_of_perm (permuted : fields.Perm others)
    (distinct : (fields.map (·.1)).Nodup) : (others.map (·.1)).Nodup :=
  (permuted.map _).nodup_iff.1 distinct

theorem ne_of_nodup_names {first second : String × α} {rest : List (String × α)}
    (distinct : ((first :: second :: rest).map (·.1)).Nodup) : first.1 ≠ second.1 := by
  obtain ⟨new, -⟩ := List.nodup_cons.1 distinct
  exact fun same => new (List.mem_cons.2 (.inl same))

theorem lookup_of_perm (permuted : fields.Perm others) (distinct : (fields.map (·.1)).Nodup)
    (name : String) : fields.lookup name = others.lookup name := by
  induction permuted with
  | nil => rfl
  | cons field _ hypothesis =>
    rw [List.lookup_cons, List.lookup_cons, hypothesis (List.nodup_cons.1 distinct).2]
  | swap first second rest =>
    have different : second.1 ≠ first.1 := ne_of_nodup_names distinct
    rw [List.lookup_cons, List.lookup_cons, List.lookup_cons, List.lookup_cons]
    by_cases isFirst : name = first.1
    · subst isFirst
      rw [beq_self_eq_true, beq_eq_false_iff_ne.2 different.symm]
    · rw [beq_eq_false_iff_ne.2 isFirst]
  | trans before _ first second =>
    exact (first distinct).trans (second (nodup_names_of_perm before distinct))

theorem perm_insertEntry {name : String} (value : α) {entries : List (String × α)}
    (new : name ∉ entries.map (·.1)) :
    (NameMap.insertEntry name value entries).Perm ((name, value) :: entries) := by
  induction entries with
  | nil => exact .refl _
  | cons first rest hypothesis =>
    rw [List.map_cons, List.mem_cons, not_or] at new
    rw [NameMap.insertEntry]
    split
    · exact .refl _
    · rw [if_neg new.1]
      exact ((hypothesis new.2).cons first).trans (.swap _ _ _)

end

theorem sortedFields_eq_map (fields : List (String × Json)) :
    sortedFields fields = fields.map fun field => (field.1, field.2.sorted) := by
  induction fields with
  | nil => rfl
  | cons field rest hypothesis => exact congrArg ((field.1, field.2.sorted) :: ·) hypothesis

theorem sortedItems_eq_map (items : List Json) : sortedItems items = items.map sorted := by
  induction items with
  | nil => rfl
  | cons item rest hypothesis => exact congrArg (item.sorted :: ·) hypothesis

theorem perm_sortFields {fields : List (String × Json)} (distinct : (fields.map (·.1)).Nodup) :
    (sortFields fields).Perm fields := by
  have run : ∀ sorted : List (String × Json), ((fields ++ sorted).map (·.1)).Nodup →
      (fields.foldl (fun sorted field => NameMap.insertEntry field.1 field.2 sorted) sorted).Perm
        (fields ++ sorted) := by
    induction fields with
    | nil => exact fun _ _ => .refl _
    | cons field rest hypothesis =>
      intro sorted apart
      have moved : (rest ++ field :: sorted).Perm (field :: rest ++ sorted) := List.perm_middle
      have distinctMoved := nodup_names_of_perm moved.symm apart
      have new : field.1 ∉ sorted.map (·.1) := by
        rw [List.map_append, List.map_cons] at distinctMoved
        exact (List.nodup_cons.1 (List.nodup_append.1 distinctMoved).2.1).1
      have inserted := (perm_insertEntry field.2 new).append_left rest
      rw [List.foldl_cons]
      refine (hypothesis (List.nodup_cons.1 distinct).2 _ ?_).trans (inserted.trans moved)
      exact nodup_names_of_perm inserted.symm distinctMoved
  have whole := run []
  rw [List.append_nil] at whole
  exact whole distinct

/-! ### Fields that are kept -/

/-- The fields whose names are kept. -/
def keepFields {α : Type} (keep : String → Bool) (fields : List (String × α)) :
    List (String × α) :=
  fields.filter fun field => keep field.1

section

variable {α : Type} {keep : String → Bool}

theorem keepFields_of_keep {field : String × α} (kept : keep field.1 = true)
    (rest : List (String × α)) :
    keepFields keep (field :: rest) = field :: keepFields keep rest :=
  List.filter_cons_of_pos kept

theorem keepFields_of_drop {field : String × α} (dropped : keep field.1 = false)
    (rest : List (String × α)) : keepFields keep (field :: rest) = keepFields keep rest :=
  List.filter_cons_of_neg (by simp [dropped])

end

/-! ### Reading fields -/

namespace Shape

/-- A record that passes over all other fields reads the same from those that are kept. -/
theorem fill_keepFields {σ : Type} {read : σ → String → Shape σ} {keep : String → Bool}
    (passes : ∀ draft field value, keep field = false → read draft field value = .ok draft)
    (fields : List (String × Json)) (start : σ) :
    fill read start fields = fill read start (keepFields keep fields) := by
  induction fields generalizing start with
  | nil => rfl
  | cons field rest hypothesis =>
    obtain ⟨name, value⟩ := field
    cases stays : keep name with
    | true =>
      rw [keepFields_of_keep stays, fill, fill, List.foldlM_cons, List.foldlM_cons]
      exact congrArg (bind _) (funext hypothesis)
    | false =>
      rw [keepFields_of_drop stays, fill, List.foldlM_cons]
      show read start name value >>= _ = _
      rw [passes start name value stays, ← hypothesis]
      rfl

theorem once_of_nodup (known : List String) {fields : List (String × Json)}
    (distinct : (fields.map (·.1)).Nodup) : once known fields = .ok () := by
  induction fields with
  | nil => rfl
  | cons field rest hypothesis =>
    obtain ⟨new, others⟩ := List.nodup_cons.1 distinct
    rw [once, if_neg fun both => new both.2, hypothesis others]

/-- Whether two fields can be put into a draft in either order. -/
def Independent {σ : Type} (read : σ → String → Shape σ) : Prop :=
  ∀ draft next last first second value other, first ≠ second →
    read draft first value = .ok next → read next second other = .ok last →
      ∃ after, read draft second other = .ok after ∧ read after first value = .ok last

theorem bind_eq_ok {ε α β : Type} {first : Except ε α} {next : α → Except ε β} {result : β} :
    first >>= next = .ok result ↔ ∃ value, first = .ok value ∧ next value = .ok result := by
  cases first with
  | error error => exact ⟨nofun, nofun⟩
  | ok value => exact ⟨fun goesOn => ⟨value, rfl, goesOn⟩, by rintro ⟨_, ⟨⟩, goesOn⟩; exact goesOn⟩

theorem pure_eq_ok {ε α : Type} {value result : α} :
    (pure value : Except ε α) = .ok result ↔ value = result :=
  ⟨Except.ok.inj, congrArg Except.ok⟩

variable {σ : Type} {read : σ → String → Shape σ}

/-- A field that is passed over can be so before or after any other. -/
theorem Independent.ite (independent : Independent read) (known : String → Prop)
    [DecidablePred known] :
    Independent fun draft field value =>
      if known field then read draft field value else .ok draft := by
  intro draft next last first second value other different filled others
  dsimp only at filled others ⊢
  by_cases knowsFirst : known first
  · rw [if_pos knowsFirst] at filled
    simp only [if_pos knowsFirst]
    by_cases knowsSecond : known second
    · rw [if_pos knowsSecond] at others ⊢
      exact independent _ _ _ _ _ _ _ different filled others
    · rw [if_neg knowsSecond] at others ⊢
      obtain rfl := Except.ok.inj others
      exact ⟨draft, rfl, filled⟩
  · rw [if_neg knowsFirst] at filled
    simp only [if_neg knowsFirst]
    obtain rfl := Except.ok.inj filled
    exact ⟨last, others, rfl⟩

theorem fill_cons_eq_ok {draft last : σ} {field : String × Json} {rest : List (String × Json)} :
    fill read draft (field :: rest) = .ok last ↔
      ∃ next, read draft field.1 field.2 = .ok next ∧ fill read next rest = .ok last :=
  bind_eq_ok

/-- Fields that each stand there once are read alike in every order. -/
theorem fill_perm (independent : Independent read) {fields others : List (String × Json)}
    (permuted : fields.Perm others) (distinct : (fields.map (·.1)).Nodup) {start found : σ}
    (filled : fill read start fields = .ok found) : fill read start others = .ok found := by
  induction permuted generalizing start with
  | nil => exact filled
  | cons field _ hypothesis =>
    obtain ⟨next, here, rest⟩ := fill_cons_eq_ok.1 filled
    exact fill_cons_eq_ok.2 ⟨next, here, hypothesis (List.nodup_cons.1 distinct).2 rest⟩
  | swap first second rest =>
    obtain ⟨next, here, others⟩ := fill_cons_eq_ok.1 filled
    obtain ⟨last, there, rest⟩ := fill_cons_eq_ok.1 others
    have different : second.1 ≠ first.1 := ne_of_nodup_names distinct
    obtain ⟨after, earlier, later⟩ := independent _ _ _ _ _ _ _ different here there
    exact fill_cons_eq_ok.2 ⟨after, earlier, fill_cons_eq_ok.2 ⟨last, later, rest⟩⟩
  | trans before _ first second =>
    exact second (nodup_names_of_perm before distinct) (first distinct filled)

end Shape

/-! ### The two orders -/

/-- The orders in which fields that were written come back. -/
inductive Order where
  | asWritten
  | ascending

namespace Order

/-- A value with its fields in an order. -/
def apply : Order → Json → Json
  | asWritten, value => value
  | ascending, value => value.sorted

/-- Fields whose values have theirs in an order. -/
def applyInside (order : Order) (fields : List (String × Json)) : List (String × Json) :=
  fields.map fun field => (field.1, order.apply field.2)

variable (order : Order)

theorem apply_text (value : String) : order.apply (.text value) = .text value := by
  cases order <;> rfl

theorem apply_bool (value : Bool) : order.apply (.bool value) = .bool value := by
  cases order <;> rfl

theorem apply_integer (value : Int) : order.apply (.integer value) = .integer value := by
  cases order <;> rfl

theorem apply_null : order.apply .null = .null := by
  cases order <;> rfl

theorem apply_list (items : List Json) :
    order.apply (.list items) = .list (items.map order.apply) := by
  cases order with
  | asWritten => exact congrArg list (List.map_id _).symm
  | ascending => exact congrArg list (sortedItems_eq_map items)

theorem names_applyInside (fields : List (String × Json)) :
    (order.applyInside fields).map (·.1) = fields.map (·.1) := by
  rw [applyInside, List.map_map]
  rfl

theorem applyInside_append (first second : List (String × Json)) :
    order.applyInside (first ++ second) = order.applyInside first ++ order.applyInside second :=
  List.map_append

theorem lookup_applyInside (fields : List (String × Json)) (name : String) :
    (order.applyInside fields).lookup name = (fields.lookup name).map order.apply := by
  induction fields with
  | nil => rfl
  | cons field rest hypothesis =>
    rw [applyInside, List.map_cons, List.lookup_cons, List.lookup_cons]
    split
    · rfl
    · exact hypothesis

theorem keepFields_applyInside (keep : String → Bool) (fields : List (String × Json)) :
    keepFields keep (order.applyInside fields) = order.applyInside (keepFields keep fields) :=
  List.filter_map

/-- The fields of an object are the same in every order, if each stands there once. -/
theorem exists_perm_apply {fields : List (String × Json)} (distinct : (fields.map (·.1)).Nodup) :
    ∃ given, order.apply (.object fields) = .object given ∧
      (order.applyInside fields).Perm given ∧ (given.map (·.1)).Nodup := by
  have distinctInside := order.names_applyInside fields ▸ distinct
  cases order with
  | asWritten => exact ⟨fields, rfl, .of_eq (List.map_id _), distinct⟩
  | ascending =>
    have inside : ascending.applyInside fields = sortedFields fields :=
      (sortedFields_eq_map fields).symm
    have sorted := perm_sortFields distinctInside
    rw [inside] at sorted distinctInside ⊢
    exact ⟨_, rfl, sorted.symm, nodup_names_of_perm sorted.symm distinctInside⟩

end Order

/-- A record is read alike in both orders. -/
theorem Shape.record_apply {σ : Type} {read : σ → String → Shape σ}
    (independent : Independent read) (order : Order) {fields : List (String × Json)}
    (distinct : (fields.map (·.1)).Nodup) {start found : σ}
    (filled : fill read start (order.applyInside fields) = .ok found) (name : String)
    (standing : Standing) (known : List String) :
    record name standing known start read (order.apply (.object fields)) =
      .ok ⟨found, .missing⟩ := by
  obtain ⟨given, apply, permuted, distinctGiven⟩ := order.exists_perm_apply distinct
  have distinctInside := nodup_names_of_perm permuted.symm distinctGiven
  rw [apply, record, once_of_nodup known distinctGiven]
  exact bind_eq_ok.2 ⟨(), rfl,
    bind_eq_ok.2 ⟨found, fill_perm independent permuted distinctInside filled, rfl⟩⟩

end Declarations.Json
