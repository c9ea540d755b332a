/-
This file proves what the keys of imports look like. The key of an import is a word from
the source text, or a word behind the name of the module or a front of it, so along any
way that imports can lead a name is a given one with one word more for each step.
-/

import Declarations.Build.Origin
import Declarations.Proofs.Lowering.Fresh
import Declarations.Proofs.Lowering.Imported
import Declarations.Proofs.Source.Imports
import Declarations.Proofs.Text.Dotted

namespace Declarations

/-- Whether a text can stand behind a dot in a key: it is not longer than `limit`, and the piece
before its first dot or slash is not empty. -/
structure IsWord (limit : Nat) (name : String) : Prop where
  length_le : name.length ≤ limit
  starts : ∃ first rest, name.toList = first :: rest ∧ first ≠ '.' ∧ first ≠ '/'

/-- Whether a name is one of at most `given` characters with words of at most `limit` characters
behind it, as many as `depth` says. -/
inductive IsChain (given limit : Nat) : Nat → String → Prop where
  | given {name : String} : name.length ≤ given → IsChain given limit 0 name
  | word {name : String} : IsWord limit name → IsChain given limit 1 name
  | behind {depth : Nat} {base name : String} : IsChain given limit depth base →
      IsWord limit name → IsChain given limit (depth + 1) (Dotted.below base name)

/-- Whether a name is a chain of some depth. -/
def IsChained (given limit : Nat) (name : String) : Prop :=
  ∃ depth, IsChain given limit depth name

variable {given limit : Nat}

/-! ### Words and chains -/

/-- What is written as a name, or a star, is a word. -/
theorem isWord_of_written {name : String}
    (written : name = "*" ∨ Source.IsWritten limit name) : IsWord (limit + 1) name := by
  rcases written with rfl | written
  · exact ⟨Nat.le_add_left 1 limit, '*', [], rfl, by decide, by decide⟩
  · obtain ⟨first, rest, same, starts⟩ := written.starts
    refine ⟨Nat.le_succ_of_le written.length_le, first, rest, same, ?_, ?_⟩
    · rintro rfl
      exact absurd starts (by decide +kernel)
    · rintro rfl
      exact absurd starts (by decide +kernel)

/-- What stands in front of a dot in a word is a word. -/
theorem IsWord.front {front tail : String} (word : IsWord limit (Dotted.below front tail)) :
    IsWord limit front := by
  obtain ⟨first, rest, same, notDot, notSlash⟩ := word.starts
  rw [Dotted.toList_below] at same
  constructor
  · exact Nat.le_trans (Dotted.length_lt_below front tail).le word.length_le
  · cases front_eq : front.toList with
    | nil =>
      rw [front_eq] at same
      exact absurd (List.cons.inj same).1.symm notDot
    | cons character more =>
      rw [front_eq] at same
      obtain ⟨rfl, -⟩ := List.cons.inj same
      exact ⟨character, more, rfl, notDot, notSlash⟩

/-- The first part of a word is a word. -/
theorem IsWord.head {name : String} (word : IsWord limit name) :
    IsWord limit (Dotted.head name) := by
  obtain ⟨first, rest, same, notDot, notSlash⟩ := word.starts
  constructor
  · rw [Dotted.head, String.length_ofList]
    refine Nat.le_trans ?_ word.length_le
    rw [← String.length_toList]
    exact (List.takeWhile_prefix _).length_le
  · refine ⟨first, rest.takeWhile (· ≠ '.'), ?_, notDot, notSlash⟩
    rw [Dotted.head, String.toList_ofList, same, List.takeWhile_cons, decide_eq_true notDot]
    rfl

/-- What stands in front of a dot in a chain is a chain that is not deeper. -/
theorem IsChain.front {depth : Nat} {name : String} (chain : IsChain given limit depth name) :
    ∀ {front tail : String}, name = Dotted.below front tail →
      ∃ shorter ≤ depth, IsChain given limit shorter front := by
  induction chain with
  | given short =>
    rintro front tail rfl
    exact ⟨0, Nat.le_refl 0, .given (Nat.le_trans (Dotted.length_lt_below front tail).le short)⟩
  | word isWord =>
    rintro front tail rfl
    exact ⟨1, Nat.le_refl 1, .word isWord.front⟩
  | @behind depth base name chain isWord inductionHypothesis =>
    intro front tail cut
    rcases Dotted.below_cases cut with rfl | ⟨more, rfl⟩ | ⟨more, rfl, rfl⟩
    · exact ⟨depth, Nat.le_succ depth, chain⟩
    · obtain ⟨shorter, notDeeper, isChain⟩ := inductionHypothesis rfl
      exact ⟨shorter, Nat.le_succ_of_le notDeeper, isChain⟩
    · exact ⟨depth + 1, Nat.le_refl _, .behind chain isWord.front⟩

theorem IsChained.front {front tail : String}
    (chained : IsChained given limit (Dotted.below front tail)) :
    IsChained given limit front := by
  obtain ⟨depth, chain⟩ := chained
  obtain ⟨shorter, -, isChain⟩ := chain.front rfl
  exact ⟨shorter, isChain⟩

theorem IsChain.length_le {depth : Nat} {name : String} (chain : IsChain given limit depth name) :
    name.length ≤ given + (limit + 1) * depth := by
  induction chain with
  | given short => exact Nat.le_trans short (Nat.le_add_right _ _)
  | word isWord =>
    have := isWord.length_le
    omega
  | @behind depth base name chain isWord inductionHypothesis =>
    have same : (Dotted.below base name).length = base.length + 1 + name.length := by
      rw [Dotted.below, String.length_append, String.length_append]
      rfl
    have := isWord.length_le
    rw [same, Nat.mul_succ]
    omega

theorem isChained_empty : IsChained given limit "" :=
  ⟨0, .given (Nat.zero_le _)⟩

/-! ### Keys -/

namespace ImportBindings

/-- Whether all keys in a table have a property. -/
def AllKeys (property : String → Prop) (table : List ImportedSymbol) : Prop :=
  ∀ symbol ∈ table, property symbol.target.key

end ImportBindings

/-- The absolute name of an import is a chain where the name of the module is one. -/
theorem isChained_absoluteModule {current : String} (chained : IsChained given (limit + 1) current)
    (isPackage : Bool) {entry : Import} (written : entry.IsWritten limit) :
    IsChained given (limit + 1) (absoluteModule current isPackage entry) := by
  have origin : IsChained given (limit + 1) entry.origin := by
    rcases written.origin with none | name
    · rw [none]
      exact isChained_empty
    · exact ⟨1, .word (isWord_of_written (.inr name))⟩
  unfold absoluteModule
  split
  · exact origin
  · exact origin
  next level _ =>
    dsimp only
    generalize ((Dotted.parts current).length - if isPackage = true then level - 1 else level) =
      count
    have kept : IsChained given (limit + 1) (Dotted.join ((Dotted.parts current).take count)) := by
      rcases Dotted.join_take_parts current count with none | all | ⟨tail, cut⟩
      · rw [none]
        exact isChained_empty
      · rwa [all]
      · rw [cut] at chained
        exact chained.front
    split
    · exact kept
    next named =>
      have word : IsWord (limit + 1) entry.origin := by
        refine isWord_of_written (written.origin.imp_left fun none => ?_)
        rw [none] at named
        exact absurd rfl named
      by_cases none : (Dotted.parts current).take count = []
      · rw [none]
        exact ⟨1, .word word⟩
      · obtain ⟨depth, chain⟩ := kept
        rw [Dotted.join_append none (List.cons_ne_nil _ _)]
        exact ⟨depth + 1, .behind chain word⟩

/-- An import binds names to chains where the name of the module is one. -/
theorem Import.isChained_of_binds {current : String}
    (chained : IsChained given (limit + 1) current) {isPackage : Bool} {entry : Import}
    (written : entry.IsWritten limit) {name key : String}
    (binds : entry.Binds current isPackage name key) : IsChained given (limit + 1) key := by
  have word {imported : ImportedName} (member : imported ∈ entry.names) :
      IsWord (limit + 1) imported.name :=
    isWord_of_written (written.names imported member)
  cases binds with
  | renamed _ member _ => exact ⟨1, .word (word member)⟩
  | whole _ member => exact ⟨1, .word (word member)⟩
  | top _ member => exact ⟨1, .word (word member).head⟩
  | member _ member _ =>
    split
    · exact ⟨1, .word (word member)⟩
    · obtain ⟨depth, chain⟩ := isChained_absoluteModule chained isPackage written
      exact ⟨depth + 1, .behind chain (word member)⟩

namespace ImportBindings

/-- The keys that a module imports are chains where its name is one. -/
theorem isChained_ofImports {current : String} (chained : IsChained given (limit + 1) current)
    (isPackage : Bool) {entries : List Import}
    (written : ∀ entry ∈ entries, entry.IsWritten limit) :
    AllKeys (IsChained given (limit + 1)) (ofImports current isPackage entries).table := by
  intro symbol member
  obtain ⟨name, key, rfl, ⟨entry, among, binds⟩ | ⟨-, entry, among, ⟨-, -, -⟩⟩⟩ :=
    (within_ofImports current isPackage entries).table symbol member
  · exact Import.isChained_of_binds chained (written entry among) binds
  · exact isChained_absoluteModule chained isPackage (written entry among)

end ImportBindings

/-- The keys in the table of a module that was lowered are chains where its name is one. -/
theorem Origin.isChained_of_lower {origin : Origin} {name : String} {module : Module}
    (chained : IsChained given (limit + 1) name) (short : origin.text.length ≤ limit)
    (lowered : origin.lower name = .ok module) :
    ImportBindings.AllKeys (IsChained given (limit + 1)) module.imports := by
  unfold lower at lowered
  split at lowered
  next outline read =>
    cases lowered
    rw [Module.imports_ofOutline]
    exact ImportBindings.isChained_ofImports chained _ fun entry member =>
      (Outline.isWritten_of_read read entry member).mono short
  next => cases lowered

end Declarations
