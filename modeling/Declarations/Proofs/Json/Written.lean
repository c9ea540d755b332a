/-
This file says how written values look: how the entries between brackets follow each other,
which characters a value starts with, and what may stand behind one. Indenting puts only
blanks between the entries.
-/

import Declarations.Proofs.Json.Scanning

namespace Declarations.Json

/-! ### Values -/

mutual

/-- Whether all numbers of a value are natural numbers of 64 bits. -/
def Plain : Json → Prop
  | .integer value => 0 ≤ value ∧ value < significandLimit
  | .decimal _ => False
  | .list items => PlainItems items
  | .object fields => PlainFields fields
  | _ => True

/-- Whether all items are plain. -/
def PlainItems : List Json → Prop
  | [] => True
  | item :: rest => Plain item ∧ PlainItems rest

/-- Whether the values of all fields are plain. -/
def PlainFields : List (String × Json) → Prop
  | [] => True
  | (_, value) :: rest => Plain value ∧ PlainFields rest

end

mutual

/-- How deep the brackets of a value nest. -/
def nesting : Json → Nat
  | .list items => nestingItems items + 1
  | .object fields => nestingFields fields + 1
  | _ => 0

/-- How deep the brackets of items nest. -/
def nestingItems : List Json → Nat
  | [] => 0
  | item :: rest => max (nesting item) (nestingItems rest)

/-- How deep the brackets of fields nest. -/
def nestingFields : List (String × Json) → Nat
  | [] => 0
  | (_, value) :: rest => max (nesting value) (nestingFields rest)

end

/-! ### Entries between brackets -/

/-- What follows an entry inside brackets: the other entries and the closing bracket. -/
def followers (indented : Bool) (depth : Nat) (bracket : Char) : List String → List Char
  | [] => (newLine indented depth).toList ++ [bracket]
  | entry :: rest =>
    ',' :: ((newLine indented (depth + 1)).toList ++
      (entry.toList ++ followers indented depth bracket rest))

theorem toList_newLine (depth : Nat) :
    (newLine true depth).toList = '\n' :: List.replicate (2 * depth) ' ' := by
  rw [newLine, if_pos rfl, String.toList_append,
    String.toList_ofList (l := List.replicate (2 * depth) ' ')]
  rfl

theorem blank_newLine (indented : Bool) (depth : Nat) :
    ∀ character ∈ (newLine indented depth).toList, Blank character := by
  intro character member
  cases indented with
  | false => exact absurd member List.not_mem_nil
  | true =>
    rw [toList_newLine] at member
    rcases List.mem_cons.mp member with line | blank
    · exact Or.inr (Or.inl line)
    · exact Or.inl (List.eq_of_mem_replicate blank)

/-- What follows an opening bracket. -/
def inside (indented : Bool) (depth : Nat) (bracket : Char) : List String → List Char
  | [] => [bracket]
  | entry :: rest =>
    (newLine indented (depth + 1)).toList ++
      (entry.toList ++ followers indented depth bracket rest)

theorem toList_intercalate_append (indented : Bool) (depth : Nat) (bracket : Char) :
    ∀ (rest : List String) (entry : String),
      (("," ++ newLine indented (depth + 1)).intercalate (entry :: rest)).toList ++
        ((newLine indented depth).toList ++ [bracket]) =
      entry.toList ++ followers indented depth bracket rest
  | [], entry => by rw [String.intercalate_singleton, followers]
  | next :: rest, entry => by
    rw [String.intercalate_cons_cons, String.toList_append, String.toList_append,
      String.toList_append, List.append_assoc, toList_intercalate_append indented depth bracket rest
        next, followers]
    simp only [List.append_assoc]
    rfl

theorem toList_enclose (indented : Bool) (opening : String) {closing : String} (bracket : Char)
    (ends : closing.toList = [bracket]) (depth : Nat) (entries : List String) :
    (enclose indented opening closing depth entries).toList =
      opening.toList ++ inside indented depth bracket entries := by
  cases entries with
  | nil =>
    rw [enclose, String.toList_append, ends]
    rfl
  | cons entry rest =>
    have written : enclose indented opening closing depth (entry :: rest) =
        opening ++ newLine indented (depth + 1) ++
          ("," ++ newLine indented (depth + 1)).intercalate (entry :: rest) ++
          newLine indented depth ++ closing := rfl
    rw [written]
    simp only [String.toList_append, List.append_assoc]
    rw [ends, toList_intercalate_append, inside]

theorem length_followers_pos (indented : Bool) (depth : Nat) (bracket : Char)
    (entries : List String) : 0 < (followers indented depth bracket entries).length := by
  cases entries with
  | nil =>
    rw [followers, List.length_append]
    exact Nat.succ_pos _
  | cons entry rest => exact Nat.succ_pos _

theorem closes_followers {indented : Bool} {depth : Nat} {bracket : Char}
    (bracketed : bracket ∈ [']', '}']) {entries : List String} {tail : List Char} :
    Closes (followers indented depth bracket entries ++ tail) := by
  intro character member
  cases entries with
  | nil =>
    cases indented with
    | false =>
      cases member
      exact List.mem_cons_of_mem _ (List.mem_append_left ['\n'] bracketed)
    | true =>
      rw [followers, toList_newLine] at member
      cases member
      decide
  | cons entry rest =>
    cases member
    decide

/-! ### The start of a value -/

/-- A written value starts with a character that is no blank and closes no list. -/
def Starts (character : Char) : Prop :=
  ¬ Blank character ∧ character ≠ ']'

theorem starts_of_isDigit {character : Char} (digit : character.isDigit = true) :
    Starts character := by
  refine ⟨?_, ?_⟩
  · rintro (rfl | rfl | rfl | rfl) <;> exact absurd digit (by decide)
  · rintro rfl
    exact absurd digit (by decide)

/-- Whether a text has such a character at its start. -/
def Opens (text : List Char) : Prop :=
  ∃ character rest, text = character :: rest ∧ Starts character

theorem Opens.length_pos {text : List Char} (opens : Opens text) : 0 < text.length := by
  obtain ⟨character, rest, rfl, _⟩ := opens
  exact Nat.succ_pos _

theorem Opens.rest_skipBlanks {text blanks tail : List Char} (opens : Opens text)
    {place : ReadPlace} (blank : ∀ character ∈ blanks, Blank character)
    (left : place.rest = blanks ++ (text ++ tail)) : place.skipBlanks.rest = text ++ tail := by
  obtain ⟨character, rest, rfl, starts⟩ := opens
  exact ReadPlace.rest_skipBlanks (by rintro _ ⟨⟩; exact starts.1) blank left

theorem opens_quote (content : String) : Opens (quote content).toList :=
  ⟨'"', content.toList.flatMap escape ++ ['"'], by rw [quote, String.toList_ofList]; rfl,
    by decide, by decide⟩

theorem opens_write (indented : Bool) (level : Nat) :
    ∀ {value : Json}, value.Plain → Opens (value.write indented level).toList
  | .null, _ => ⟨'n', "ull".toList, by rw [write]; rfl, by decide, by decide⟩
  | .bool true, _ => ⟨'t', "rue".toList, by rw [write]; rfl, by decide, by decide⟩
  | .bool false, _ => ⟨'f', "alse".toList, by rw [write]; rfl, by decide, by decide⟩
  | .integer (.ofNat value), _ => by
    obtain ⟨digit, rest, written, isDigit⟩ := repr_starts value
    exact ⟨digit, rest, by rw [write]; exact written, starts_of_isDigit isDigit⟩
  | .integer (.negSucc _), plain => absurd plain.1 (Int.not_le.mpr (Int.negSucc_lt_zero _))
  | .text value, _ => by
    rw [write]
    exact opens_quote value
  | .list items, _ =>
    ⟨'[', _, by rw [write, toList_enclose indented _ ']' rfl]; rfl, by decide, by decide⟩
  | .object fields, _ =>
    ⟨'{', _, by rw [write, toList_enclose indented _ '}' rfl]; rfl, by decide, by decide⟩

end Declarations.Json
