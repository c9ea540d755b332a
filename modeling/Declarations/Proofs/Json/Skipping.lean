/-
This file proves that what was written is skipped up to its end, however deep its brackets nest,
where the reader does not look at it.
-/

import Declarations.Proofs.Json.Brackets

namespace Declarations.Json

/-- Whether skipping ends in front of a tail. -/
def Skips (result : Except ReadError ReadPlace) (tail : List Char) : Prop :=
  ∃ after, result = .ok after ∧ after.rest = tail

/-! ### Entries -/

/-- The items of a list are skipped one by one. -/
theorem skips_skipItems {fuel : Nat} {first : Bool} {place start : ReadPlace}
    {middle tail : List Char} (begins : readItemStart first place = .ok (true, start))
    (head : Skips (skipValue fuel start) middle)
    (rest : ∀ next : ReadPlace, next.rest = middle → Skips (skipItems fuel false next) tail) :
    Skips (skipItems (fuel + 1) first place) tail := by
  obtain ⟨next, found, left⟩ := head
  unfold skipItems
  simp only [begins, found]
  exact rest next left

/-- The fields of an object are skipped one by one. -/
theorem skips_skipFields {fuel : Nat} {indented first : Bool} {place start : ReadPlace}
    {name : String} {text middle tail : List Char}
    (begins : readFieldStart first place = .ok (true, start))
    (named : start.rest = (quote name).toList ++ ((colon indented).toList ++ (text ++ middle)))
    (head : ∀ (next : ReadPlace) (blanks : List Char),
      (∀ character ∈ blanks, Blank character) → next.rest = blanks ++ (text ++ middle) →
      Skips (skipValue fuel next) middle)
    (rest : ∀ next : ReadPlace, next.rest = middle → Skips (skipFields fuel false next) tail) :
    Skips (skipFields (fuel + 1) first place) tail := by
  obtain ⟨behind, -, quoted, left⟩ := readText_quote name named
  obtain ⟨next, blanks, separated, follow, blank⟩ := rest_readColon left
  obtain ⟨after, found, left⟩ := head next blanks blank follow
  unfold skipFields
  simp only [begins, quoted, separated, found]
  exact rest after left

/-! ### Values -/

theorem skips_word {fuel : Nat} {place : ReadPlace} {tail : List Char} (first : Char)
    (word : String)
    (skipping : ∀ rest, place.skipBlanks.rest = first :: rest →
      skipValue (fuel + 1) place = readWord word.toList place.skipBlanks.next)
    (skipped : place.skipBlanks.rest = first :: (word.toList ++ tail)) :
    Skips (skipValue (fuel + 1) place) tail := by
  rw [skipping _ skipped]
  exact readWord_append word.toList _ (ReadPlace.rest_next skipped)

theorem skips_integer {fuel : Nat} {place : ReadPlace} {tail : List Char} {value : Nat}
    (closes : Closes tail) (skipped : place.skipBlanks.rest = value.repr.toList ++ tail) :
    Skips (skipValue (fuel + 1) place) tail := by
  have number := skipNumber_repr closes skipped
  obtain ⟨digit, digits, written, isDigit⟩ := repr_starts value
  rw [written, List.cons_append] at skipped
  unfold skipValue
  simp only [skipped]
  split
  all_goals first
    | exact absurd isDigit (by decide)
    | rwa [if_pos isDigit]

mutual

theorem skips_skipValue (indented : Bool) :
    ∀ {value : Json}, value.Plain → ∀ {level fuel : Nat} {place : ReadPlace}
      (blanks : List Char) {tail : List Char}, (∀ character ∈ blanks, Blank character) →
      Closes tail → place.rest = blanks ++ ((value.write indented level).toList ++ tail) →
      2 * (value.write indented level).toList.length ≤ fuel → Skips (skipValue fuel place) tail
  | value, plain, level, fuel, place, blanks, tail, blank, closes, left, enough => by
    have opens := opens_write indented level plain
    have skipped := opens.rest_skipBlanks blank left
    obtain ⟨fuel, rfl⟩ := fuel_pos opens.length_pos enough
    cases value with
    | null =>
      rw [write] at skipped
      refine skips_word 'n' "ull" (fun rest left => ?_) skipped
      unfold skipValue
      simp only [left]
    | bool value =>
      rw [write] at skipped
      cases value with
      | true =>
        refine skips_word 't' "rue" (fun rest left => ?_) skipped
        unfold skipValue
        simp only [left]
      | false =>
        refine skips_word 'f' "alse" (fun rest left => ?_) skipped
        unfold skipValue
        simp only [left]
    | integer value =>
      rw [write] at skipped
      cases value with
      | negSucc value => exact absurd plain.1 (Int.not_le.mpr (Int.negSucc_lt_zero _))
      | ofNat value => exact skips_integer closes skipped
    | decimal value => exact absurd plain not_false
    | text value =>
      rw [write] at skipped
      obtain ⟨after, -, passed, rest⟩ := readText_quote value skipped
      rw [quote, String.toList_ofList, List.cons_append, List.cons_append] at skipped
      refine ⟨after, ?_, rest⟩
      unfold skipValue
      simp only [skipped]
      rwa [skipped] at passed
    | list items =>
      rw [write, toList_enclose indented _ ']' rfl] at skipped enough
      rw [List.length_append] at enough
      have bracket : ("[".toList).length = 1 := rfl
      unfold skipValue
      simp only [skipped]
      exact skips_skipItems_all indented plain (ReadPlace.rest_next skipped) (by omega)
    | object fields =>
      rw [write, toList_enclose indented _ '}' rfl] at skipped enough
      rw [List.length_append] at enough
      have bracket : ("\x7b".toList).length = 1 := rfl
      unfold skipValue
      simp only [skipped]
      exact skips_skipFields_all indented plain (ReadPlace.rest_next skipped) (by omega)

/-- The items of a list are skipped from behind its bracket. -/
theorem skips_skipItems_all (indented : Bool) :
    ∀ {items : List Json}, PlainItems items → ∀ {level fuel : Nat} {place : ReadPlace}
      {tail : List Char},
      place.rest = inside indented level ']' (writeItems indented level items) ++ tail →
      2 * (inside indented level ']' (writeItems indented level items)).length ≤ fuel →
      Skips (skipItems fuel true place) tail
  | [], _, level, fuel, place, tail, left, enough => by
    obtain ⟨start, ends, behind⟩ := readItemStart_close true blank_nil left
    obtain ⟨fuel, rfl⟩ := fuel_pos (Nat.succ_pos 0) enough
    refine ⟨start.next, ?_, behind⟩
    unfold skipItems
    simp only [ends]
  | item :: rest, plain, level, fuel, place, tail, left, enough => by
    have opens := opens_write indented (level + 1) plain.1
    rw [writeItems, inside] at left enough
    simp only [List.append_assoc] at left
    obtain ⟨start, begins, behind⟩ :=
      readItemStart_first (blank_newLine indented (level + 1)) opens left
    obtain ⟨fuel, rfl, enoughHere, enoughBehind⟩ := fuel_entry opens.length_pos
      (length_followers_pos indented level ']' (writeItems indented level rest))
      (by simp only [List.length_append]; omega) enough
    exact skips_skipItems begins
      (skips_skipValue indented plain.1 [] blank_nil (closes_followers (by decide)) behind
        enoughHere)
      fun next left => skips_skipItems_next indented plain.2 left enoughBehind

/-- The other items of a list are skipped from behind an item. -/
theorem skips_skipItems_next (indented : Bool) :
    ∀ {items : List Json}, PlainItems items → ∀ {level fuel : Nat} {place : ReadPlace}
      {tail : List Char},
      place.rest = followers indented level ']' (writeItems indented level items) ++ tail →
      2 * (followers indented level ']' (writeItems indented level items)).length ≤ fuel →
      Skips (skipItems fuel false place) tail
  | [], _, level, fuel, place, tail, left, enough => by
    obtain ⟨fuel, rfl⟩ := fuel_pos (length_followers_pos indented level _ _) enough
    rw [writeItems, followers, List.append_assoc] at left
    obtain ⟨start, ends, behind⟩ := readItemStart_close false (blank_newLine indented level) left
    refine ⟨start.next, ?_, behind⟩
    unfold skipItems
    simp only [ends]
  | item :: rest, plain, level, fuel, place, tail, left, enough => by
    have opens := opens_write indented (level + 1) plain.1
    rw [writeItems, followers] at left enough
    simp only [List.cons_append, List.append_assoc] at left
    obtain ⟨start, begins, behind⟩ :=
      readItemStart_next (blank_newLine indented (level + 1)) opens left
    obtain ⟨fuel, rfl, enoughHere, enoughBehind⟩ := fuel_entry opens.length_pos
      (length_followers_pos indented level ']' (writeItems indented level rest))
      (by simp only [List.length_cons, List.length_append]; omega) enough
    exact skips_skipItems begins
      (skips_skipValue indented plain.1 [] blank_nil (closes_followers (by decide)) behind
        enoughHere)
      fun next left => skips_skipItems_next indented plain.2 left enoughBehind

/-- The fields of an object are skipped from behind its bracket. -/
theorem skips_skipFields_all (indented : Bool) :
    ∀ {fields : List (String × Json)}, PlainFields fields →
      ∀ {level fuel : Nat} {place : ReadPlace} {tail : List Char},
      place.rest = inside indented level '}' (writeFields indented level fields) ++ tail →
      2 * (inside indented level '}' (writeFields indented level fields)).length ≤ fuel →
      Skips (skipFields fuel true place) tail
  | [], _, level, fuel, place, tail, left, enough => by
    obtain ⟨start, ends, behind⟩ := readFieldStart_close true blank_nil left
    obtain ⟨fuel, rfl⟩ := fuel_pos (Nat.succ_pos 0) enough
    refine ⟨start.next, ?_, behind⟩
    unfold skipFields
    simp only [ends]
  | (name, value) :: rest, plain, level, fuel, place, tail, left, enough => by
    have opens := opens_write indented (level + 1) plain.1
    rw [writeFields, inside] at left enough
    simp only [String.toList_append, List.append_assoc] at left enough
    obtain ⟨start, begins, behind⟩ :=
      readFieldStart_first (blank_newLine indented (level + 1)) left
    obtain ⟨fuel, rfl, enoughHere, enoughBehind⟩ := fuel_entry opens.length_pos
      (length_followers_pos indented level '}' (writeFields indented level rest))
      (by simp only [List.length_append]; omega) enough
    exact skips_skipFields begins behind
      (fun next blanks blank left => skips_skipValue indented plain.1 blanks blank
        (closes_followers (by decide)) left enoughHere)
      fun next left => skips_skipFields_next indented plain.2 left enoughBehind

/-- The other fields of an object are skipped from behind a field. -/
theorem skips_skipFields_next (indented : Bool) :
    ∀ {fields : List (String × Json)}, PlainFields fields →
      ∀ {level fuel : Nat} {place : ReadPlace} {tail : List Char},
      place.rest = followers indented level '}' (writeFields indented level fields) ++ tail →
      2 * (followers indented level '}' (writeFields indented level fields)).length ≤ fuel →
      Skips (skipFields fuel false place) tail
  | [], _, level, fuel, place, tail, left, enough => by
    obtain ⟨fuel, rfl⟩ := fuel_pos (length_followers_pos indented level _ _) enough
    rw [writeFields, followers, List.append_assoc] at left
    obtain ⟨start, ends, behind⟩ := readFieldStart_close false (blank_newLine indented level) left
    refine ⟨start.next, ?_, behind⟩
    unfold skipFields
    simp only [ends]
  | (name, value) :: rest, plain, level, fuel, place, tail, left, enough => by
    have opens := opens_write indented (level + 1) plain.1
    rw [writeFields, followers] at left enough
    simp only [String.toList_append, List.cons_append, List.append_assoc] at left enough
    obtain ⟨start, begins, behind⟩ :=
      readFieldStart_next (blank_newLine indented (level + 1)) left
    obtain ⟨fuel, rfl, enoughHere, enoughBehind⟩ := fuel_entry opens.length_pos
      (length_followers_pos indented level '}' (writeFields indented level rest))
      (by simp only [List.length_cons, List.length_append]; omega) enough
    exact skips_skipFields begins behind
      (fun next blanks blank left => skips_skipValue indented plain.1 blanks blank
        (closes_followers (by decide)) left enoughHere)
      fun next left => skips_skipFields_next indented plain.2 left enoughBehind

end

end Declarations.Json
