/-
This file proves that the reader gives back what was written, whether indented or on one
line: the parts of it that a plan reads, with their fields as they stand, where the brackets
in these parts do not nest deeper than the reader goes. Where they nest deeper the text is
refused. Numbers must be natural numbers of 64 bits, which is all that entries hold.
-/

import Declarations.Proofs.Json.Skipping

namespace Declarations.Json

/-! ### What a plan reads -/

namespace Plan

variable {Part : Type} (plan : Plan Part)

mutual

/-- What a plan reads of a value. -/
def taken (part : Part) : Json → Json
  | .list items => .list (takenItems part 0 items)
  | .object fields => .object (takenFields part fields)
  | other => other

/-- What a plan reads of the items of a list from a place on. -/
def takenItems (part : Part) (place : Nat) : List Json → List Json
  | [] => []
  | item :: rest => taken (plan.item part place) item :: takenItems part (place + 1) rest

/-- What a plan reads of the fields of an object. -/
def takenFields (part : Part) : List (String × Json) → List (String × Json)
  | [] => []
  | (name, value) :: rest =>
    match plan.field part name with
    | none => takenFields part rest
    | some inner => (name, taken inner value) :: takenFields part rest

end

theorem takenItems_of_fixed {part : Part} (items : List Json)
    (fixed : ∀ item ∈ items, ∀ place, plan.taken (plan.item part place) item = item)
    (place : Nat) : plan.takenItems part place items = items := by
  induction items generalizing place with
  | nil => rw [takenItems]
  | cons item rest hypothesis =>
    obtain ⟨here, others⟩ := List.forall_mem_cons.1 fixed
    rw [takenItems, here, hypothesis others]

theorem takenFields_append (part : Part) (first second : List (String × Json)) :
    plan.takenFields part (first ++ second) =
      plan.takenFields part first ++ plan.takenFields part second := by
  induction first with
  | nil => rw [takenFields, List.nil_append, List.nil_append]
  | cons field rest hypothesis =>
    rw [List.cons_append, takenFields, takenFields, hypothesis]
    split <;> rfl

theorem takenFields_of_fixed {part : Part} {fields : List (String × Json)}
    (fixed : ∀ field ∈ fields, ∃ inner, plan.field part field.1 = some inner ∧
      plan.taken inner field.2 = field.2) : plan.takenFields part fields = fields := by
  induction fields with
  | nil => rw [takenFields]
  | cons field rest hypothesis =>
    obtain ⟨⟨inner, isPart, here⟩, others⟩ := List.forall_mem_cons.1 fixed
    rw [takenFields, isPart]
    dsimp only
    rw [here, hypothesis others]

/-- Whether everything in a part is again such a part. -/
structure Closed (part : Part) : Prop where
  field : ∀ name, plan.field part name = some part
  item : ∀ place, plan.item part place = part

theorem closed_whole : whole.Closed () :=
  ⟨fun _ => rfl, fun _ => rfl⟩

variable {plan} {part : Part}

mutual

/-- A part in which everything is such a part is read in full. -/
theorem taken_of_closed (closed : plan.Closed part) : (value : Json) → plan.taken part value = value
  | .list items => by rw [taken, takenItems_of_closed closed 0 items]
  | .object fields => by rw [taken, takenFields_of_closed closed fields]
  | .null | .bool _ | .integer _ | .decimal _ | .text _ => by rw [taken]; all_goals nofun

theorem takenItems_of_closed (closed : plan.Closed part) (place : Nat) : (items : List Json) →
    plan.takenItems part place items = items
  | [] => by rw [takenItems]
  | first :: rest => by
    rw [takenItems, takenItems_of_closed closed (place + 1) rest, closed.item,
      taken_of_closed closed first]

theorem takenFields_of_closed (closed : plan.Closed part) : (fields : List (String × Json)) →
    plan.takenFields part fields = fields
  | [] => by rw [takenFields]
  | (name, value) :: rest => by
    rw [takenFields, closed.field, takenFields_of_closed closed rest]
    exact congrArg (fun value => (name, value) :: rest) (taken_of_closed closed value)

end

end Plan

/-! ### Reading back -/

/-- What reading gives: a value up to a tail where it fits, and a refusal elsewhere. -/
def Reads {α : Type} (result : Except ReadError (α × ReadPlace)) (fits : Prop) (value : α)
    (tail : List Char) : Prop :=
  (fits ∧ ∃ after, result = .ok (value, after) ∧ after.rest = tail) ∨
    (¬ fits ∧ ∃ error, result = .error error)

theorem Reads.map {α β : Type} {result : Except ReadError (α × ReadPlace)} {fits : Prop}
    {value : α} {tail : List Char} (reads : Reads result fits value tail) (change : α → β) :
    Reads (result.map fun found => (change found.1, found.2)) fits (change value) tail := by
  rcases reads with ⟨fits, after, rfl, rest⟩ | ⟨unfit, error, rfl⟩
  · exact Or.inl ⟨fits, after, rfl, rest⟩
  · exact Or.inr ⟨unfit, error, rfl⟩

theorem Reads.congr {α : Type} {result : Except ReadError (α × ReadPlace)} {fits fits' : Prop}
    {value : α} {tail : List Char} (reads : Reads result fits value tail) (same : fits ↔ fits') :
    Reads result fits' value tail := by
  rw [← propext same]
  exact reads

/-! ### Entries -/

section

variable {Part : Type} {plan : Plan Part} {part : Part}

/-- A list is read from one item and the items after it. -/
theorem reads_readItems {fuel room : Nat} {first : Bool} {read : List Json}
    {place start : ReadPlace} {item : Json} {items : List Json} {fits fits' : Prop}
    {middle tail : List Char} (begins : readItemStart first place = .ok (true, start))
    (head : Reads (readValue plan fuel room (plan.item part read.length) start) fits item middle)
    (rest : ∀ next : ReadPlace, next.rest = middle →
      Reads (readItems plan fuel room part false (item :: read) next) fits' items tail) :
    Reads (readItems plan (fuel + 1) room part first read place) (fits ∧ fits') items tail := by
  unfold readItems
  simp only [begins]
  rcases head with ⟨fit, next, found, left⟩ | ⟨unfit, error, refused⟩
  · simp only [found]
    exact (rest next left).congr (by simp only [fit, true_and])
  · simp only [refused]
    exact Or.inr ⟨fun both => unfit both.1, error, rfl⟩

section

variable {fuel room : Nat} {indented first : Bool} {read : List (String × Json)}
  {place start : ReadPlace} {name : String} {fields : List (String × Json)} {fits' : Prop}
  {text middle tail : List Char}

/-- The fields of an object are read from one field and the fields after it. -/
theorem reads_readFields_some {inner : Part} {value : Json} {fits : Prop}
    (isPart : plan.field part name = some inner)
    (begins : readFieldStart first place = .ok (true, start))
    (named : start.rest = (quote name).toList ++ ((colon indented).toList ++ (text ++ middle)))
    (head : ∀ (next : ReadPlace) (blanks : List Char),
      (∀ character ∈ blanks, Blank character) → next.rest = blanks ++ (text ++ middle) →
      Reads (readValue plan fuel room inner next) fits value middle)
    (rest : ∀ next : ReadPlace, next.rest = middle →
      Reads (readFields plan fuel room part false ((name, value) :: read) next) fits' fields
        tail) :
    Reads (readFields plan (fuel + 1) room part first read place) (fits ∧ fits') fields tail := by
  obtain ⟨behind, quoted, -, left⟩ := readText_quote name named
  obtain ⟨next, blanks, separated, follow, blank⟩ := rest_readColon left
  unfold readFields
  simp only [begins, quoted, separated, isPart]
  rcases head next blanks blank follow with ⟨fit, after, found, left⟩ | ⟨unfit, error, refused⟩
  · simp only [found]
    exact (rest after left).congr (by simp only [fit, true_and])
  · simp only [refused]
    exact Or.inr ⟨fun both => unfit both.1, error, rfl⟩

/-- A field that is no part leaves nothing behind. -/
theorem reads_readFields_none (noPart : plan.field part name = none)
    (begins : readFieldStart first place = .ok (true, start))
    (named : start.rest = (quote name).toList ++ ((colon indented).toList ++ (text ++ middle)))
    (head : ∀ (next : ReadPlace) (blanks : List Char),
      (∀ character ∈ blanks, Blank character) → next.rest = blanks ++ (text ++ middle) →
      Skips (skipValue fuel next) middle)
    (rest : ∀ next : ReadPlace, next.rest = middle →
      Reads (readFields plan fuel room part false read next) fits' fields tail) :
    Reads (readFields plan (fuel + 1) room part first read place) fits' fields tail := by
  obtain ⟨behind, quoted, -, left⟩ := readText_quote name named
  obtain ⟨next, blanks, separated, follow, blank⟩ := rest_readColon left
  obtain ⟨after, found, left⟩ := head next blanks blank follow
  unfold readFields
  simp only [begins, quoted, separated, noPart, found]
  exact rest after left

end

/-! ### Reading values back -/

theorem readValue_text {fuel room : Nat} {place : ReadPlace} {rest : List Char}
    (left : place.skipBlanks.rest = '"' :: rest) :
    readValue plan (fuel + 1) room part place =
      (readText place.skipBlanks.rest.length [] place.skipBlanks.next).map fun found =>
        (text found.1, found.2) := by
  unfold readValue
  simp only [left]

theorem readValue_list {fuel room : Nat} {place : ReadPlace} {rest : List Char}
    (left : place.skipBlanks.rest = '[' :: rest) :
    readValue plan (fuel + 1) (room + 1) part place =
      (readItems plan fuel room part true [] place.skipBlanks.next).map fun found =>
        (list found.1, found.2) := by
  unfold readValue
  simp only [left]

theorem readValue_object {fuel room : Nat} {place : ReadPlace} {rest : List Char}
    (left : place.skipBlanks.rest = '{' :: rest) :
    readValue plan (fuel + 1) (room + 1) part place =
      (readFields plan fuel room part true [] place.skipBlanks.next).map fun found =>
        (object found.1, found.2) := by
  unfold readValue
  simp only [left]

/-- Without room for a bracket nothing is read. -/
theorem readValue_tooDeep {fuel : Nat} {place : ReadPlace} {bracket : Char} {rest : List Char}
    (opening : bracket = '[' ∨ bracket = '{') (left : place.skipBlanks.rest = bracket :: rest) :
    readValue plan (fuel + 1) 0 part place = place.skipBlanks.refuseNext .tooDeep := by
  unfold readValue
  rcases opening with rfl | rfl <;> simp only [left]

theorem reads_tooDeep {fuel : Nat} {place : ReadPlace} {bracket : Char} {rest tail : List Char}
    {fits : Prop} {value : Json} (opening : bracket = '[' ∨ bracket = '{')
    (left : place.skipBlanks.rest = bracket :: rest) (unfit : ¬ fits) :
    Reads (readValue plan (fuel + 1) 0 part place) fits value tail := by
  rw [readValue_tooDeep opening left]
  unfold ReadPlace.refuseNext
  split <;> exact Or.inr ⟨unfit, _, rfl⟩

theorem reads_word {fuel room : Nat} {place : ReadPlace} {tail : List Char} {fits : Prop}
    (fit : fits) {value : Json} (first : Char) (word : String)
    (reading : ∀ rest, place.skipBlanks.rest = first :: rest →
      readValue plan (fuel + 1) room part place =
        (readWord word.toList place.skipBlanks.next).map fun place => (value, place))
    (skipped : place.skipBlanks.rest = first :: (word.toList ++ tail)) :
    Reads (readValue plan (fuel + 1) room part place) fits value tail := by
  obtain ⟨after, read, rest⟩ := readWord_append word.toList _ (ReadPlace.rest_next skipped)
  rw [reading _ skipped, read]
  exact Or.inl ⟨fit, after, rfl, rest⟩

theorem reads_integer {fuel room : Nat} {place : ReadPlace} {tail : List Char} {fits : Prop}
    (fit : fits) {value : Nat} (closes : Closes tail) (small : value < significandLimit)
    (skipped : place.skipBlanks.rest = value.repr.toList ++ tail) :
    Reads (readValue plan (fuel + 1) room part place) fits (.integer value) tail := by
  obtain ⟨after, read, rest⟩ := readNumber_repr closes small skipped
  obtain ⟨digit, digits, written, isDigit⟩ := repr_starts value
  rw [written, List.cons_append] at skipped
  refine Or.inl ⟨fit, after, ?_, rest⟩
  unfold readValue
  simp only [skipped]
  split
  all_goals first
    | exact absurd isDigit (by decide)
    | exact (if_pos isDigit).trans read

end

section

variable {Part : Type} (plan : Plan Part)

mutual

theorem reads_readValue (indented : Bool) :
    ∀ {value : Json}, value.Plain → ∀ {level fuel : Nat} (room : Nat) {part : Part}
      {place : ReadPlace} (blanks : List Char) {tail : List Char},
      (∀ character ∈ blanks, Blank character) → Closes tail →
      place.rest = blanks ++ ((value.write indented level).toList ++ tail) →
      2 * (value.write indented level).toList.length ≤ fuel →
      Reads (readValue plan fuel room part place) ((plan.taken part value).nesting ≤ room)
        (plan.taken part value) tail
  | value, plain, level, fuel, room, part, place, blanks, tail, blank, closes, left, enough => by
    have opens := opens_write indented level plain
    have skipped := opens.rest_skipBlanks blank left
    obtain ⟨fuel, rfl⟩ := fuel_pos opens.length_pos enough
    cases value with
    | null =>
      rw [write] at skipped
      refine reads_word (Nat.zero_le _) 'n' "ull" (fun rest left => ?_) skipped
      unfold readValue
      simp only [left]
      rfl
    | bool value =>
      rw [write] at skipped
      cases value with
      | true =>
        refine reads_word (Nat.zero_le _) 't' "rue" (fun rest left => ?_) skipped
        unfold readValue
        simp only [left]
        rfl
      | false =>
        refine reads_word (Nat.zero_le _) 'f' "alse" (fun rest left => ?_) skipped
        unfold readValue
        simp only [left]
        rfl
    | integer value =>
      rw [write] at skipped
      cases value with
      | negSucc value => exact absurd plain.1 (Int.not_le.mpr (Int.negSucc_lt_zero _))
      | ofNat value =>
        have small : value < significandLimit := Int.ofNat_lt.mp plain.2
        exact reads_integer (Nat.zero_le _) closes small skipped
    | decimal value => exact absurd plain not_false
    | text value =>
      rw [write] at skipped
      obtain ⟨after, read, -, rest⟩ := readText_quote value skipped
      rw [quote, String.toList_ofList] at skipped
      refine Or.inl ⟨Nat.zero_le _, after, ?_, rest⟩
      rw [readValue_text skipped, read]
      rfl
    | list items =>
      rw [write, toList_enclose indented _ ']' rfl] at skipped enough
      rw [Plan.taken]
      cases room with
      | zero => exact reads_tooDeep (Or.inl rfl) skipped (Nat.not_succ_le_zero _)
      | succ room =>
        rw [readValue_list skipped]
        refine ((reads_readItems_all indented plain (ReadPlace.rest_next skipped) ?_).map
          list).congr Nat.add_le_add_iff_right.symm
        rw [List.length_append] at enough
        have bracket : ("[".toList).length = 1 := rfl
        omega
    | object fields =>
      rw [write, toList_enclose indented _ '}' rfl] at skipped enough
      rw [Plan.taken]
      cases room with
      | zero => exact reads_tooDeep (Or.inr rfl) skipped (Nat.not_succ_le_zero _)
      | succ room =>
        rw [readValue_object skipped]
        refine ((reads_readFields_all indented plain (ReadPlace.rest_next skipped) ?_).map
          object).congr Nat.add_le_add_iff_right.symm
        rw [List.length_append] at enough
        have bracket : ("\x7b".toList).length = 1 := rfl
        omega

/-- The items of a list are read from behind its bracket. -/
theorem reads_readItems_all (indented : Bool) :
    ∀ {items : List Json}, PlainItems items → ∀ {level fuel room : Nat} {part : Part}
      {place : ReadPlace} {tail : List Char},
      place.rest = inside indented level ']' (writeItems indented level items) ++ tail →
      2 * (inside indented level ']' (writeItems indented level items)).length ≤ fuel →
      Reads (readItems plan fuel room part true [] place)
        (nestingItems (plan.takenItems part 0 items) ≤ room) (plan.takenItems part 0 items) tail
  | [], _, level, fuel, room, part, place, tail, left, enough => by
    obtain ⟨start, ends, behind⟩ := readItemStart_close true blank_nil left
    obtain ⟨fuel, rfl⟩ := fuel_pos (Nat.succ_pos 0) enough
    refine Or.inl ⟨Nat.zero_le _, start.next, ?_, behind⟩
    unfold readItems
    simp only [ends]
    rfl
  | item :: rest, plain, level, fuel, room, part, place, tail, left, enough => by
    have opens := opens_write indented (level + 1) plain.1
    rw [writeItems, inside] at left enough
    simp only [List.append_assoc] at left
    obtain ⟨start, begins, behind⟩ :=
      readItemStart_first (blank_newLine indented (level + 1)) opens left
    obtain ⟨fuel, rfl, enoughHere, enoughBehind⟩ := fuel_entry opens.length_pos
      (length_followers_pos indented level ']' (writeItems indented level rest))
      (by simp only [List.length_append]; omega) enough
    exact (reads_readItems begins
      (reads_readValue indented plain.1 room [] blank_nil (closes_followers (by decide)) behind
        enoughHere)
      fun next left => reads_readItems_next indented plain.2 left enoughBehind).congr
        Nat.max_le.symm

/-- The other items of a list are read from behind an item. -/
theorem reads_readItems_next (indented : Bool) :
    ∀ {items : List Json}, PlainItems items → ∀ {level fuel room : Nat} {part : Part}
      {read : List Json} {place : ReadPlace} {tail : List Char},
      place.rest = followers indented level ']' (writeItems indented level items) ++ tail →
      2 * (followers indented level ']' (writeItems indented level items)).length ≤ fuel →
      Reads (readItems plan fuel room part false read place)
        (nestingItems (plan.takenItems part read.length items) ≤ room)
        (read.reverse ++ plan.takenItems part read.length items) tail
  | [], _, level, fuel, room, part, read, place, tail, left, enough => by
    obtain ⟨fuel, rfl⟩ := fuel_pos (length_followers_pos indented level _ _) enough
    rw [writeItems, followers, List.append_assoc] at left
    obtain ⟨start, ends, behind⟩ := readItemStart_close false (blank_newLine indented level) left
    refine Or.inl ⟨Nat.zero_le _, start.next, ?_, behind⟩
    unfold readItems
    simp only [ends]
    rw [Plan.takenItems, List.append_nil]
  | item :: rest, plain, level, fuel, room, part, read, place, tail, left, enough => by
    have opens := opens_write indented (level + 1) plain.1
    rw [writeItems, followers] at left enough
    simp only [List.cons_append, List.append_assoc] at left
    obtain ⟨start, begins, behind⟩ :=
      readItemStart_next (blank_newLine indented (level + 1)) opens left
    obtain ⟨fuel, rfl, enoughHere, enoughBehind⟩ := fuel_entry opens.length_pos
      (length_followers_pos indented level ']' (writeItems indented level rest))
      (by simp only [List.length_cons, List.length_append]; omega) enough
    rw [Plan.takenItems, List.append_cons, ← List.reverse_cons]
    exact (reads_readItems begins
      (reads_readValue indented plain.1 room [] blank_nil (closes_followers (by decide)) behind
        enoughHere)
      fun next left => reads_readItems_next indented plain.2 left enoughBehind).congr
        Nat.max_le.symm

/-- The fields of an object are read from behind its bracket. -/
theorem reads_readFields_all (indented : Bool) :
    ∀ {fields : List (String × Json)}, PlainFields fields →
      ∀ {level fuel room : Nat} {part : Part} {place : ReadPlace} {tail : List Char},
      place.rest = inside indented level '}' (writeFields indented level fields) ++ tail →
      2 * (inside indented level '}' (writeFields indented level fields)).length ≤ fuel →
      Reads (readFields plan fuel room part true [] place)
        (nestingFields (plan.takenFields part fields) ≤ room) (plan.takenFields part fields) tail
  | [], _, level, fuel, room, part, place, tail, left, enough => by
    obtain ⟨start, ends, behind⟩ := readFieldStart_close true blank_nil left
    obtain ⟨fuel, rfl⟩ := fuel_pos (Nat.succ_pos 0) enough
    refine Or.inl ⟨Nat.zero_le _, start.next, ?_, behind⟩
    unfold readFields
    simp only [ends]
    rfl
  | (name, value) :: rest, plain, level, fuel, room, part, place, tail, left, enough => by
    have opens := opens_write indented (level + 1) plain.1
    rw [writeFields, inside] at left enough
    simp only [String.toList_append, List.append_assoc] at left enough
    obtain ⟨start, begins, behind⟩ :=
      readFieldStart_first (blank_newLine indented (level + 1)) left
    obtain ⟨fuel, rfl, enoughHere, enoughBehind⟩ := fuel_entry opens.length_pos
      (length_followers_pos indented level '}' (writeFields indented level rest))
      (by simp only [List.length_append]; omega) enough
    rw [Plan.takenFields]
    cases isPart : plan.field part name with
    | none =>
      exact reads_readFields_none isPart begins behind
        (fun next blanks blank left => skips_skipValue indented plain.1 blanks blank
          (closes_followers (by decide)) left enoughHere)
        fun next left => reads_readFields_next indented plain.2 left enoughBehind
    | some inner =>
      exact (reads_readFields_some isPart begins behind
        (fun next blanks blank left => reads_readValue indented plain.1 room blanks blank
          (closes_followers (by decide)) left enoughHere)
        fun next left => reads_readFields_next indented plain.2 left enoughBehind).congr
          Nat.max_le.symm

/-- The other fields of an object are read from behind a field. -/
theorem reads_readFields_next (indented : Bool) :
    ∀ {fields : List (String × Json)}, PlainFields fields →
      ∀ {level fuel room : Nat} {part : Part} {read : List (String × Json)} {place : ReadPlace}
        {tail : List Char},
      place.rest = followers indented level '}' (writeFields indented level fields) ++ tail →
      2 * (followers indented level '}' (writeFields indented level fields)).length ≤ fuel →
      Reads (readFields plan fuel room part false read place)
        (nestingFields (plan.takenFields part fields) ≤ room)
        (read.reverse ++ plan.takenFields part fields) tail
  | [], _, level, fuel, room, part, read, place, tail, left, enough => by
    obtain ⟨fuel, rfl⟩ := fuel_pos (length_followers_pos indented level _ _) enough
    rw [writeFields, followers, List.append_assoc] at left
    obtain ⟨start, ends, behind⟩ := readFieldStart_close false (blank_newLine indented level) left
    refine Or.inl ⟨Nat.zero_le _, start.next, ?_, behind⟩
    unfold readFields
    simp only [ends]
    rw [Plan.takenFields, List.append_nil]
  | (name, value) :: rest, plain, level, fuel, room, part, read, place, tail, left, enough => by
    have opens := opens_write indented (level + 1) plain.1
    rw [writeFields, followers] at left enough
    simp only [String.toList_append, List.cons_append, List.append_assoc] at left enough
    obtain ⟨start, begins, behind⟩ :=
      readFieldStart_next (blank_newLine indented (level + 1)) left
    obtain ⟨fuel, rfl, enoughHere, enoughBehind⟩ := fuel_entry opens.length_pos
      (length_followers_pos indented level '}' (writeFields indented level rest))
      (by simp only [List.length_cons, List.length_append]; omega) enough
    rw [Plan.takenFields]
    cases isPart : plan.field part name with
    | none =>
      exact reads_readFields_none isPart begins behind
        (fun next blanks blank left => skips_skipValue indented plain.1 blanks blank
          (closes_followers (by decide)) left enoughHere)
        fun next left => reads_readFields_next indented plain.2 left enoughBehind
    | some inner =>
      rw [List.append_cons, ← List.reverse_cons]
      exact (reads_readFields_some isPart begins behind
        (fun next blanks blank left => reads_readValue indented plain.1 room blanks blank
          (closes_followers (by decide)) left enoughHere)
        fun next left => reads_readFields_next indented plain.2 left enoughBehind).congr
          Nat.max_le.symm

end

end

/-! ### Whole texts -/

theorem readEnd_nil {place : ReadPlace} (left : place.rest = []) : readEnd place = .ok () := by
  have skipped : place.skipBlanks.rest = [] :=
    ReadPlace.rest_skipBlanks (by rintro _ ⟨⟩) blank_nil (left.trans (List.nil_append _).symm)
  unfold readEnd
  simp only [skipped, List.isEmpty_nil, if_true]

/-- What a plan reads of a written text are the parts of the value, where their brackets do not
nest too deep, and elsewhere the text is refused. -/
theorem readParts_render {Part : Type} (plan : Plan Part) (part : Part) (indented : Bool)
    {value : Json} (plain : value.Plain) (depth : Nat) :
    ((plan.taken part value).nesting ≤ depth ∧
      readParts plan part depth (value.render indented) = .ok (plan.taken part value)) ∨
      (depth < (plan.taken part value).nesting ∧
        ∃ error, readParts plan part depth (value.render indented) = .error error) := by
  have left : (ReadPlace.start (value.render indented)).rest =
      [] ++ ((value.write indented 0).toList ++ []) := (List.append_nil _).symm
  have closes : Closes [] := by
    rintro _ ⟨⟩
  rcases reads_readValue plan indented plain depth [] blank_nil closes left
      (Nat.le_succ (2 * (ReadPlace.start (value.render indented)).rest.length)) with
    ⟨fits, after, found, rest⟩ | ⟨unfit, error, refused⟩
  · refine Or.inl ⟨fits, ?_⟩
    unfold readParts
    simp only [found, readEnd_nil rest]
  · refine Or.inr ⟨Nat.lt_of_not_le unfit, error, ?_⟩
    unfold readParts
    simp only [refused]

/-- A written text is read back as a whole, with its fields in ascending order, where its brackets
do not nest too deep, and refused elsewhere. -/
theorem readWithin_render (indented : Bool) {value : Json} (plain : value.Plain) (depth : Nat) :
    (value.nesting ≤ depth ∧ readWithin depth (value.render indented) = .ok value.sorted) ∨
      (depth < value.nesting ∧
        ∃ error, readWithin depth (value.render indented) = .error error) := by
  have parts := readParts_render .whole () indented plain depth
  rw [Plan.taken_of_closed Plan.closed_whole] at parts
  unfold readWithin
  rcases parts with ⟨fits, whole⟩ | ⟨deep, error, refused⟩
  · exact Or.inl ⟨fits, by rw [whole]; rfl⟩
  · exact Or.inr ⟨deep, error, by rw [refused]; rfl⟩

end Declarations.Json
