/-
This file proves how the reader gets from one entry between brackets to the next: to the first
entry behind the opening bracket, over a comma to another, over a colon from a name to its
value, and to the closing bracket. On the way it passes over the blanks of indented texts.
-/

import Declarations.Proofs.Json.Written

namespace Declarations.Json

/-! ### Entries -/

theorem readItemStart_close (first : Bool) {place : ReadPlace} {blanks tail : List Char}
    (blank : ∀ character ∈ blanks, Blank character) (left : place.rest = blanks ++ ']' :: tail) :
    ∃ start, readItemStart first place = .ok (false, start) ∧ start.next.rest = tail := by
  have skipped : place.skipBlanks.rest = ']' :: tail :=
    ReadPlace.rest_skipBlanks (by rintro _ ⟨⟩; decide) blank left
  refine ⟨place.skipBlanks, ?_, ReadPlace.rest_next skipped⟩
  unfold readItemStart
  simp only [skipped]

theorem readItemStart_first {place : ReadPlace} {blanks text tail : List Char}
    (blank : ∀ character ∈ blanks, Blank character) (opens : Opens text)
    (left : place.rest = blanks ++ (text ++ tail)) :
    ∃ start, readItemStart true place = .ok (true, start) ∧ start.rest = text ++ tail := by
  have skipped := opens.rest_skipBlanks blank left
  refine ⟨place.skipBlanks, ?_, skipped⟩
  obtain ⟨character, rest, rfl, starts⟩ := opens
  unfold readItemStart
  simp only [skipped, List.cons_append]
  split
  · contradiction
  · rename_i closed
    exact absurd (List.cons.inj closed).1 starts.2
  · rfl

theorem readItemStart_next {place : ReadPlace} {blanks text tail : List Char}
    (blank : ∀ character ∈ blanks, Blank character) (opens : Opens text)
    (left : place.rest = ',' :: (blanks ++ (text ++ tail))) :
    ∃ start, readItemStart false place = .ok (true, start) ∧ start.rest = text ++ tail := by
  have comma : place.skipBlanks.rest = ',' :: (blanks ++ (text ++ tail)) :=
    ReadPlace.rest_skipBlanks (by rintro _ ⟨⟩; decide) blank_nil (List.nil_append _ ▸ left)
  have skipped := opens.rest_skipBlanks blank (ReadPlace.rest_next comma)
  refine ⟨place.skipBlanks.next.skipBlanks, ?_, skipped⟩
  obtain ⟨character, rest, rfl, starts⟩ := opens
  unfold readItemStart
  simp only [comma, skipped, List.cons_append, Bool.false_eq_true, if_false]
  split
  · contradiction
  · rename_i closed
    exact absurd (List.cons.inj closed).1 (by decide)
  · rename_i separated
    obtain ⟨rfl, rfl⟩ := List.cons.inj separated
    rw [if_pos rfl]
    split
    · contradiction
    · rename_i closed
      exact absurd (List.cons.inj closed).1 starts.2
    · rfl

theorem readFieldStart_close (first : Bool) {place : ReadPlace} {blanks tail : List Char}
    (blank : ∀ character ∈ blanks, Blank character) (left : place.rest = blanks ++ '}' :: tail) :
    ∃ start, readFieldStart first place = .ok (false, start) ∧ start.next.rest = tail := by
  have skipped : place.skipBlanks.rest = '}' :: tail :=
    ReadPlace.rest_skipBlanks (by rintro _ ⟨⟩; decide) blank left
  refine ⟨place.skipBlanks, ?_, ReadPlace.rest_next skipped⟩
  unfold readFieldStart
  simp only [skipped]

theorem readFieldStart_first {place : ReadPlace} {blanks tail : List Char} {name : String}
    (blank : ∀ character ∈ blanks, Blank character)
    (left : place.rest = blanks ++ ((quote name).toList ++ tail)) :
    ∃ start, readFieldStart true place = .ok (true, start) ∧
      start.rest = (quote name).toList ++ tail := by
  have skipped := (opens_quote name).rest_skipBlanks blank left
  refine ⟨place.skipBlanks, ?_, skipped⟩
  rw [quote, String.toList_ofList] at skipped
  unfold readFieldStart
  simp only [skipped, List.cons_append]
  rfl

theorem readFieldStart_next {place : ReadPlace} {blanks tail : List Char} {name : String}
    (blank : ∀ character ∈ blanks, Blank character)
    (left : place.rest = ',' :: (blanks ++ ((quote name).toList ++ tail))) :
    ∃ start, readFieldStart false place = .ok (true, start) ∧
      start.rest = (quote name).toList ++ tail := by
  have comma : place.skipBlanks.rest = ',' :: (blanks ++ ((quote name).toList ++ tail)) :=
    ReadPlace.rest_skipBlanks (by rintro _ ⟨⟩; decide) blank_nil (List.nil_append _ ▸ left)
  have skipped := (opens_quote name).rest_skipBlanks blank (ReadPlace.rest_next comma)
  refine ⟨place.skipBlanks.next.skipBlanks, ?_, skipped⟩
  rw [quote, String.toList_ofList] at skipped
  unfold readFieldStart
  simp only [comma, skipped, List.cons_append, Bool.false_eq_true, if_false]
  rfl

theorem rest_readColon {indented : Bool} {place : ReadPlace} {tail : List Char}
    (left : place.rest = (colon indented).toList ++ tail) :
    ∃ after blanks, readColon place = .ok after ∧ after.rest = blanks ++ tail ∧
      ∀ character ∈ blanks, Blank character := by
  obtain ⟨blanks, written, blank⟩ : ∃ blanks, (colon indented).toList = ':' :: blanks ∧
      ∀ character ∈ blanks, Blank character := by
    cases indented
    · exact ⟨[], rfl, blank_nil⟩
    · exact ⟨[' '], rfl, fun _ member => Or.inl (List.mem_singleton.mp member)⟩
  rw [written] at left
  have skipped : place.skipBlanks.rest = ':' :: (blanks ++ tail) :=
    ReadPlace.rest_skipBlanks (by rintro _ ⟨⟩; decide) blank_nil (List.nil_append _ ▸ left)
  refine ⟨place.skipBlanks.next, blanks, ?_, ReadPlace.rest_next skipped, blank⟩
  unfold readColon
  simp only [skipped]

/-! ### Bounds -/

theorem fuel_pos {length fuel : Nat} (visible : 0 < length) (enough : 2 * length ≤ fuel) :
    ∃ fuel', fuel = fuel' + 1 :=
  ⟨fuel - 1, by omega⟩

/-- What is enough for an entry and those behind it leaves enough for each of the two. -/
theorem fuel_entry {entry behind total fuel : Nat} (visible : 0 < entry) (more : 0 < behind)
    (within : entry + behind ≤ total) (enough : 2 * total ≤ fuel) :
    ∃ fuel', fuel = fuel' + 1 ∧ 2 * entry ≤ fuel' ∧ 2 * behind ≤ fuel' :=
  ⟨fuel - 1, by omega, by omega, by omega⟩

end Declarations.Json
