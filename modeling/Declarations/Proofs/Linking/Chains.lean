/-
This file says what looking a key up finds, without the look-up. A key that stands for a
declaration or a module is final, any other is renamed as a whole or by its longest imported
front, and a key is found exactly where at most sixteen renamings lead to a final one. The
relations know nothing of the order in which the look-up tries the fronts of a key.
-/

import Declarations.Linking.SymbolIndex
import Declarations.Proofs.NameMap
import Declarations.Proofs.Text.Dotted

namespace Declarations.SymbolIndex

variable {index : SymbolIndex} {key other last : String} {target : Target}

/-! ### Renamings -/

/-- Whether a key stands for a declaration or a module itself. -/
def IsFinal (index : SymbolIndex) (key : String) (target : Target) : Prop :=
  ∃ symbol, index.get? key = some symbol ∧ symbol.target? = some target

/-- Whether `front` is the longest front of a key that was imported: `source` is what it was
imported from, and `rest` follows it. -/
structure IsLongestImport (index : SymbolIndex) (key front rest source : String) : Prop where
  cut : key = Dotted.below front rest
  imported : index.get? front = some (.imported source)
  longest : ∀ longer shorter, key = Dotted.below longer shorter → front.length < longer.length →
    ∀ other, index.get? longer ≠ some (.imported other)

/-- Whether a key is renamed to another in one step. An imported key stands for what it was
imported from. One that is not there, or was imported from itself, is renamed by its longest
imported front. -/
inductive Renames (index : SymbolIndex) (key : String) : String → Prop
  | whole {source : String} (imported : index.get? key = some (.imported source))
      (different : source ≠ key) : Renames index key source
  | front {front rest source : String}
      (unnamed : index.get? key = none ∨ index.get? key = some (.imported key))
      (byFront : index.IsLongestImport key front rest source) :
      Renames index key (Dotted.below source rest)

/-- Whether so many renamings lead from a key to another. -/
inductive RenamesIn (index : SymbolIndex) : Nat → String → String → Prop
  | none {key : String} : RenamesIn index 0 key key
  | more {count : Nat} {key other last : String} (first : index.Renames key other)
      (onward : RenamesIn index count other last) : RenamesIn index (count + 1) key last

/-- Whether a key is neither final nor renamed. -/
def IsStuck (index : SymbolIndex) (key : String) : Prop :=
  (∀ target, ¬ index.IsFinal key target) ∧ ∀ other, ¬ index.Renames key other

/-! ### One step -/

theorem longest_of_renameFront? (renamed : index.renameFront? key = some other) :
    ∃ front rest source, index.IsLongestImport key front rest source ∧
      other = Dotted.below source rest := by
  obtain ⟨longer, ⟨front, back⟩, shorter, split, here, vain⟩ :=
    List.findSome?_eq_some_iff.1 renamed
  have member : (front, back) ∈ Dotted.fronts key := by
    rw [split]
    exact List.mem_append_right _ List.mem_cons_self
  obtain ⟨rest, rfl, cut⟩ := Dotted.mem_fronts_iff.1 member
  dsimp only at here
  split at here
  next source imported =>
    refine ⟨front, rest, source, ⟨cut, imported, fun front' rest' cut' isLonger other' found => ?_⟩,
      ?_⟩
    · -- A longer front is tried before this one.
      have later := Dotted.lt_of_length_lt (cut.symm.trans cut') isLonger
      have among := Dotted.mem_fronts_iff.2 ⟨rest', rfl, cut'⟩
      have ordered := Dotted.pairwise_fronts key
      rw [split] at among ordered
      rcases List.mem_append.1 among with before | behind
      · have none := vain _ before
        simp only [found] at none
        cases none
      · rcases List.mem_cons.1 behind with same | after
        · exact Nat.ne_of_gt isLonger (congrArg String.length (Prod.mk.inj same).1)
        · have descends := (List.pairwise_cons.1 (List.pairwise_append.1 ordered).2.1).1 _ after
          exact String.lt_irrefl _ (String.lt_trans later descends)
    · rw [← Option.some.inj here, Dotted.below, String.append_assoc]
  next => cases here

/-- The front that counts is the longest one that was imported. -/
theorem renameFront?_eq_some_iff : index.renameFront? key = some other ↔
    ∃ front rest source, index.IsLongestImport key front rest source ∧
      other = Dotted.below source rest := by
  refine ⟨longest_of_renameFront?, ?_⟩
  rintro ⟨front, rest, source, ⟨cut, imported, longest⟩, rfl⟩
  cases renamed : index.renameFront? key with
  | none =>
    have none := List.findSome?_eq_none_iff.1 renamed _ (Dotted.mem_fronts_iff.2 ⟨rest, rfl, cut⟩)
    simp only [imported] at none
    cases none
  | some found =>
    obtain ⟨front', rest', source', ⟨cut', imported', longest'⟩, rfl⟩ :=
      longest_of_renameFront? renamed
    have sameLength : front.length = front'.length :=
      Nat.le_antisymm (Nat.not_lt.1 fun less => longest' _ _ cut less _ imported)
        (Nat.not_lt.1 fun less => longest _ _ cut' less _ imported')
    have characters := congrArg String.toList (cut.symm.trans cut')
    rw [Dotted.toList_below, Dotted.toList_below] at characters
    obtain ⟨sameFront, sameRest⟩ := List.append_inj characters sameLength
    obtain rfl := String.toList_injective sameFront
    obtain rfl := String.toList_injective (List.cons.inj sameRest).2
    cases imported.symm.trans imported'
    rfl

theorem step_eq_found_iff : index.step key = .found target ↔ index.IsFinal key target := by
  unfold step IsFinal
  cases index.get? key with
  | none => cases index.renameFront? key <;> simp
  | some symbol =>
    cases symbol with
    | declaration holder place => simp [GraphSymbol.target?]
    | module name => simp [GraphSymbol.target?]
    | imported source =>
      cases index.renameFront? key <;> simp [GraphSymbol.target?] <;> split <;> simp

/-- A key that names nothing, or imports itself, is renamed by its longest front alone. -/
theorem step_eq_renamed_iff_of_front
    (here : index.get? key = none ∨ index.get? key = some (.imported key)) :
    index.step key = .renamed other ↔ ∃ front rest source,
      index.IsLongestImport key front rest source ∧ other = Dotted.below source rest := by
  rw [← renameFront?_eq_some_iff]
  unfold step
  obtain unnamed | itself := here
  · rw [unnamed]
    cases index.renameFront? key <;> simp
  · rw [itself]
    cases index.renameFront? key <;> simp

theorem step_eq_renamed_iff : index.step key = .renamed other ↔ index.Renames key other := by
  constructor
  · intro renamed
    cases named : index.get? key with
    | none =>
      obtain ⟨front, rest, source, longest, rfl⟩ :=
        (step_eq_renamed_iff_of_front (.inl named)).1 renamed
      exact .front (.inl named) longest
    | some symbol =>
      cases symbol with
      | declaration holder place =>
        unfold step at renamed
        rw [named] at renamed
        cases renamed
      | module name =>
        unfold step at renamed
        rw [named] at renamed
        cases renamed
      | imported source =>
        obtain rfl | different := eq_or_ne source key
        · obtain ⟨front, rest, source, longest, rfl⟩ :=
            (step_eq_renamed_iff_of_front (.inr named)).1 renamed
          exact .front (.inr named) longest
        · unfold step at renamed
          rw [named] at renamed
          cases (if_neg different).symm.trans renamed
          exact .whole named different
  · rintro (⟨imported, different⟩ | ⟨here, longest⟩)
    · unfold step
      rw [imported]
      exact if_neg different
    · exact (step_eq_renamed_iff_of_front here).2 ⟨_, _, _, longest, rfl⟩

theorem step_eq_stuck_iff : index.step key = .stuck ↔ index.IsStuck key := by
  simp only [IsStuck, ← step_eq_found_iff, ← step_eq_renamed_iff]
  cases index.step key <;> simp

/-! ### Chains -/

theorem Renames.unique (renames : index.Renames key other) {another : String}
    (also : index.Renames key another) : other = another := by
  rw [← step_eq_renamed_iff] at renames also
  exact Step.renamed.inj (renames.symm.trans also)

theorem IsFinal.not_renames (final : index.IsFinal key target) : ¬ index.Renames key other := by
  rw [← step_eq_found_iff] at final
  rw [← step_eq_renamed_iff, final]
  exact nofun

section

variable {ends : String → Prop}

/-- A key that is renamed and is no end leads to an end by one renaming more than the next. -/
theorem exists_renamesIn_succ (renames : index.Renames key other) (goesOn : ¬ ends key)
    (limit : Nat) :
    (∃ count ≤ limit + 1, ∃ last, index.RenamesIn count key last ∧ ends last) ↔
      ∃ count ≤ limit, ∃ last, index.RenamesIn count other last ∧ ends last := by
  constructor
  · rintro ⟨_, within, last, _ | ⟨first, onward⟩, isEnd⟩
    · exact absurd isEnd goesOn
    · rw [renames.unique first]
      exact ⟨_, Nat.le_of_succ_le_succ within, last, onward, isEnd⟩
  · rintro ⟨count, within, last, onward, isEnd⟩
    exact ⟨count + 1, Nat.succ_le_succ within, last, .more renames onward, isEnd⟩

/-- A key that is not renamed leads to no other end than itself. -/
theorem exists_renamesIn_of_not_renames (kept : ∀ other, ¬ index.Renames key other)
    (limit : Nat) :
    (∃ count ≤ limit, ∃ last, index.RenamesIn count key last ∧ ends last) ↔ ends key := by
  constructor
  · rintro ⟨_, -, last, _ | ⟨first, -⟩, isEnd⟩
    · exact isEnd
    · exact absurd first (kept _)
  · exact fun isEnd => ⟨0, Nat.zero_le _, key, .none, isEnd⟩

/-- Without renamings only the key itself can be an end. -/
theorem exists_renamesIn_zero :
    (∃ count ≤ 0, ∃ last, index.RenamesIn count key last ∧ ends last) ↔ ends key := by
  constructor
  · rintro ⟨_, within, last, _ | ⟨first, onward⟩, isEnd⟩
    · exact isEnd
    · exact absurd within (Nat.not_succ_le_zero _)
  · exact fun isEnd => ⟨0, Nat.le_refl 0, key, .none, isEnd⟩

end

/-- A key is found within a limit where so many renamings or fewer lead to a final key. -/
theorem lookupWithin_eq_some_iff (limit : Nat) :
    index.lookupWithin limit key = some target ↔
      ∃ count ≤ limit, ∃ last, index.RenamesIn count key last ∧ index.IsFinal last target := by
  induction limit generalizing key with
  | zero =>
    rw [exists_renamesIn_zero, ← step_eq_found_iff]
    cases here : index.step key with
    | found other => simp [lookupWithin_found here]
    | stuck => simp [lookupWithin_stuck here]
    | renamed other => simp [lookupWithin_zero here]
  | succ limit hypothesis =>
    cases here : index.step key with
    | found other =>
      have final := step_eq_found_iff.1 here
      rw [lookupWithin_found here, exists_renamesIn_of_not_renames fun _ => final.not_renames,
        ← step_eq_found_iff, here, Option.some_inj, Step.found.injEq]
    | stuck =>
      obtain ⟨vain, kept⟩ := step_eq_stuck_iff.1 here
      rw [lookupWithin_stuck here, exists_renamesIn_of_not_renames kept]
      exact iff_of_false nofun (vain target)
    | renamed other =>
      have renames := step_eq_renamed_iff.1 here
      rw [lookupWithin_succ here, hypothesis,
        exists_renamesIn_succ renames fun final => final.not_renames renames]

namespace RenamesIn

variable {count more : Nat}

theorem trans (leads : index.RenamesIn count key other)
    (onward : index.RenamesIn more other last) : index.RenamesIn (more + count) key last := by
  induction leads with
  | none => exact onward
  | more first _ hypothesis => exact .more first (hypothesis onward)

/-- Fewer renamings lead to a key on the way. -/
theorem cut (leads : index.RenamesIn count key last) (fewer : more ≤ count) :
    ∃ between, index.RenamesIn more key between := by
  induction leads generalizing more with
  | none =>
    rw [Nat.le_zero.1 fewer]
    exact ⟨_, .none⟩
  | more first _ hypothesis =>
    cases more with
    | zero => exact ⟨_, .none⟩
    | succ more =>
      obtain ⟨between, onward⟩ := hypothesis (Nat.le_of_succ_le_succ fewer)
      exact ⟨between, .more first onward⟩

/-- From a key on a cycle renamings go on without an end. -/
theorem exists_of_cycle (cycle : index.RenamesIn (count + 1) key key) (many : Nat) :
    ∃ between, index.RenamesIn many key between := by
  have around : ∀ times, ∃ total, times ≤ total ∧ index.RenamesIn total key key := by
    intro times
    induction times with
    | zero => exact ⟨0, Nat.le_refl 0, .none⟩
    | succ times hypothesis =>
      obtain ⟨total, enough, back⟩ := hypothesis
      exact ⟨total + (count + 1), by omega, cycle.trans back⟩
  obtain ⟨total, enough, back⟩ := around many
  exact back.cut enough

/-- All renamings of a key lead to its end, so none leads further than that. -/
theorem le_of_isFinal (leads : index.RenamesIn count key other)
    (final : index.IsFinal other target) (also : index.RenamesIn more key last) :
    more ≤ count := by
  induction leads generalizing more with
  | none =>
    cases also with
    | none => exact Nat.le_refl 0
    | more first _ => exact absurd first final.not_renames
  | more first _ hypothesis =>
    cases also with
    | none => exact Nat.zero_le _
    | more other onward =>
      obtain rfl := first.unique other
      exact Nat.succ_le_succ (hypothesis final onward)

/-- Where renamings lead to a stuck key, none lead to a final one. -/
theorem not_isFinal_of_isStuck (leads : index.RenamesIn count key other)
    (stuck : index.IsStuck other) (also : index.RenamesIn more key last) :
    ¬ index.IsFinal last target := by
  induction leads generalizing more with
  | none =>
    cases also with
    | none => exact stuck.1 target
    | more first _ => exact absurd first (stuck.2 _)
  | more first _ hypothesis =>
    cases also with
    | none => exact fun final => final.not_renames first
    | more other onward =>
      obtain rfl := first.unique other
      exact hypothesis stuck onward

end RenamesIn

/-! ### Looking up -/

/-- A key is found exactly where at most sixteen renamings lead from it to a final key, and it
has the target of that key. So nothing is found for a key that leads to a cycle, to a stuck key
or through more renamings, and a key has the target of the key it is renamed to where fifteen
renamings are enough for the latter. -/
theorem lookup_eq_some_iff_renamesIn (index : SymbolIndex) (key : String) :
    (∀ target, index.lookup key = some target ↔
      ∃ count ≤ 16, ∃ last, index.RenamesIn count key last ∧ index.IsFinal last target) ∧
    (∀ count other length, index.RenamesIn count key other →
      index.RenamesIn (length + 1) other other → index.lookup key = none) ∧
    (∀ count last, index.RenamesIn count key last → index.IsStuck last →
      index.lookup key = none) ∧
    (∀ count last, 17 ≤ count → index.RenamesIn count key last → index.lookup key = none) ∧
    ∀ other, index.Renames key other → ∀ count last target, count ≤ 15 →
      index.RenamesIn count other last → index.IsFinal last target →
        index.lookup key = some target ∧ index.lookup other = some target := by
  have found (key : String) (target : Target) : index.lookup key = some target ↔
      ∃ count ≤ 16, ∃ last, index.RenamesIn count key last ∧ index.IsFinal last target :=
    lookupWithin_eq_some_iff renameLimit
  have long (count : Nat) (last : String) (many : 17 ≤ count)
      (leads : index.RenamesIn count key last) : index.lookup key = none := by
    refine Option.eq_none_iff_forall_ne_some.2 fun target some => ?_
    obtain ⟨fewer, within, finish, toEnd, final⟩ := (found key target).1 some
    exact Nat.not_succ_le_self 16
      (Nat.le_trans many (Nat.le_trans (toEnd.le_of_isFinal final leads) within))
  refine ⟨found key, fun count other length leads cycle => ?_, fun count last leads stuck => ?_,
    long, fun other renames count last target few leads final => ?_⟩
  · obtain ⟨between, onward⟩ := cycle.exists_of_cycle 17
    exact long _ between (Nat.le_add_right 17 count) (leads.trans onward)
  · refine Option.eq_none_iff_forall_ne_some.2 fun target some => ?_
    obtain ⟨fewer, -, finish, toEnd, final⟩ := (found key target).1 some
    exact leads.not_isFinal_of_isStuck stuck toEnd final
  · constructor
    · exact (found key target).2
        ⟨count + 1, Nat.succ_le_succ few, last, .more renames leads, final⟩
    · exact (found other target).2 ⟨count, Nat.le_succ_of_le few, last, leads, final⟩

/-- The names of the steps of a ladder. -/
def rung (step : Nat) : String :=
  "rung" ++ toString step

/-- An index in which each of seventeen names is imported from the next, the last of them from a
module, and two others from each other. -/
def ladder : SymbolIndex :=
  NameMap.ofList
    ((List.range 17).map (fun step => (rung step, .imported (rung (step + 1)))) ++
      [(rung 17, .module (rung 17)), ("round", .imported "about"), ("about", .imported "round")])

theorem renames_ladder : ∀ step < 17, ladder.Renames (rung step) (rung (step + 1)) := by
  have steps : ∀ step < 17, ladder.step (rung step) = .renamed (rung (step + 1)) := by
    decide +kernel
  exact fun step within => step_eq_renamed_iff.1 (steps step within)

theorem renamesIn_ladder {start : Nat} : ∀ count, start + count = 17 →
    ladder.RenamesIn count (rung start) (rung 17)
  | 0, same => same ▸ .none
  | count + 1, same =>
    .more (renames_ladder start (by omega)) (renamesIn_ladder count (by omega))

/-- The ladder is climbed from its second step and not from its first, and nothing is found on
the cycle nor for a name that is not there. -/
theorem lookup_eq_some_iff_renamesIn_ladder :
    ladder.lookup (rung 1) = some (.module (rung 17)) ∧
      ladder.lookup (rung 2) = some (.module (rung 17)) ∧
      ladder.lookup (rung 0) = none ∧ ladder.lookup "round" = none ∧
      ladder.lookup "elsewhere" = none := by
  have final : ladder.IsFinal (rung 17) (.module (rung 17)) :=
    step_eq_found_iff.1 (by decide +kernel)
  have stuck : ladder.IsStuck "elsewhere" := step_eq_stuck_iff.1 (by decide +kernel)
  have away : ladder.Renames "round" "about" := step_eq_renamed_iff.1 (by decide +kernel)
  have back : ladder.Renames "about" "round" := step_eq_renamed_iff.1 (by decide +kernel)
  obtain ⟨-, -, -, -, next⟩ := lookup_eq_some_iff_renamesIn ladder (rung 1)
  obtain ⟨first, second⟩ := next _ (renames_ladder 1 (by decide)) 15 _ _ (Nat.le_refl 15)
    (renamesIn_ladder 15 rfl) final
  obtain ⟨-, -, -, long, -⟩ := lookup_eq_some_iff_renamesIn ladder (rung 0)
  obtain ⟨-, cycle, -⟩ := lookup_eq_some_iff_renamesIn ladder "round"
  obtain ⟨-, -, nowhere, -⟩ := lookup_eq_some_iff_renamesIn ladder "elsewhere"
  exact ⟨first, second, long 17 _ (Nat.le_refl 17) (renamesIn_ladder 17 rfl),
    cycle 0 "round" 1 .none (.more away (.more back .none)), nowhere 0 _ .none stuck⟩

end Declarations.SymbolIndex
