/-
This file proves that the parts of a value without brackets are read back as they were
written: the words, a quoted text with its escapes, and a natural number of 64 bits. The
reader stops right behind each, and so it does where it skips them.
-/

import Declarations.Json.Printer
import Declarations.Json.Reader

namespace Declarations.Json

/-! ### Places -/

/-- Whether a character is skipped between values. -/
def Blank (character : Char) : Prop :=
  character = ' ' ∨ character = '\n' ∨ character = '\t' ∨ character = '\r'

instance : DecidablePred Blank := fun character =>
  inferInstanceAs (Decidable (character = ' ' ∨ character = '\n' ∨ character = '\t' ∨
    character = '\r'))

theorem blank_nil : ∀ character ∈ ([] : List Char), Blank character :=
  fun _ member => absurd member List.not_mem_nil

/-- Whether a text that is left starts with a character that ends a value, if with any. -/
def Closes (tail : List Char) : Prop :=
  ∀ character ∈ tail.head?, character ∈ [',', ']', '}', '\n']

namespace ReadPlace

@[simp]
theorem rest_after (place : ReadPlace) (character : Char) (rest : List Char) :
    (place.after character rest).rest = rest := by
  unfold after
  split <;> rfl

theorem rest_next {place : ReadPlace} {character : Char} {rest : List Char}
    (left : place.rest = character :: rest) : place.next.rest = rest := by
  unfold next
  rw [left]
  exact rest_after place character rest

theorem rest_go {tail : List Char} (solid : ∀ character ∈ tail.head?, ¬ Blank character) :
    ∀ (blanks : List Char) (place : ReadPlace), (∀ character ∈ blanks, Blank character) →
      place.rest = blanks ++ tail → (skipBlanks.go (blanks ++ tail) place).rest = tail
  | [], place, _, left => by
    cases tail with
    | nil => exact left
    | cons character rest =>
      have visible : ¬ Blank character := solid character rfl
      unfold Blank at visible
      rw [List.nil_append, skipBlanks.go, if_neg visible, left, List.nil_append]
  | character :: blanks, place, blank, left => by
    have skipped : Blank character := blank character List.mem_cons_self
    unfold Blank at skipped
    rw [List.cons_append, skipBlanks.go, if_pos skipped]
    exact rest_go solid blanks _ (fun other member => blank other (List.mem_cons_of_mem _ member))
      (rest_after _ _ _)

/-- Blanks are skipped up to the first character that is none. -/
theorem rest_skipBlanks {place : ReadPlace} {blanks tail : List Char}
    (solid : ∀ character ∈ tail.head?, ¬ Blank character)
    (blank : ∀ character ∈ blanks, Blank character) (left : place.rest = blanks ++ tail) :
    place.skipBlanks.rest = tail := by
  unfold skipBlanks
  rw [left]
  exact rest_go solid blanks place blank left

end ReadPlace

/-! ### Words -/

theorem readWord_append {tail : List Char} :
    ∀ (word : List Char) (place : ReadPlace), place.rest = word ++ tail →
      ∃ after, readWord word place = .ok after ∧ after.rest = tail
  | [], place, left => ⟨place, rfl, left⟩
  | character :: word, place, left => by
    obtain ⟨after, read, rest⟩ := readWord_append word (place.after character (word ++ tail))
      (ReadPlace.rest_after _ _ _)
    refine ⟨after, ?_, rest⟩
    rw [readWord, left]
    simp only [List.cons_append, if_true]
    exact read

/-! ### Texts -/

theorem hexValue?_hexDigit : ∀ value < 16, hexValue? (hexDigit value) = some value := by
  decide

theorem readHex_hexDigit {value : Nat} {place : ReadPlace} {tail : List Char}
    (small : value < 32)
    (left : place.rest =
      '0' :: '0' :: hexDigit (value / 16) :: hexDigit (value % 16) :: tail) :
    ∃ after, readHex place = .ok (value, after) ∧ after.rest = tail := by
  have high : hexValue? (hexDigit (value / 16)) = some (value / 16) :=
    hexValue?_hexDigit _ (by omega)
  have low : hexValue? (hexDigit (value % 16)) = some (value % 16) :=
    hexValue?_hexDigit _ (by omega)
  have zero : hexValue? '0' = some 0 := rfl
  have sum : ((0 * 16 + 0) * 16 + value / 16) * 16 + value % 16 = value := by omega
  refine ⟨place.next.next.next.next, ?_, ?_⟩
  · unfold readHex
    rw [left]
    simp only [zero, high, low, sum]
  · have first := ReadPlace.rest_next left
    have second := ReadPlace.rest_next first
    have third := ReadPlace.rest_next second
    exact ReadPlace.rest_next third

/-- An escape by code point gives back a character below the blank. -/
theorem readCodePoint_of_readHex {value : Nat} {place after : ReadPlace} (small : value < 32)
    (digits : readHex place = .ok (value, after)) :
    readCodePoint place = .ok (Char.ofNat value, after) := by
  unfold readCodePoint
  rw [digits]
  simp only [bind, Except.bind, pure, Except.pure]
  rw [if_neg (by omega), if_pos (by omega)]

/-- A character that is written as itself. -/
def Bare (character : Char) : Prop :=
  escape character = [character] ∧ character ≠ '"' ∧ character ≠ '\\' ∧ ¬ character.toNat < 32

/-- A character that is written as an escape which is read back. -/
def Escaped (character : Char) : Prop :=
  ∃ code, escape character = '\\' :: code ∧
    ∀ (place : ReadPlace) (tail : List Char), place.rest = code ++ tail →
      ∃ after, readEscape place = .ok (character, after) ∧ skipEscape place = .ok after ∧
        after.rest = tail

theorem escaped_of_letter {character code : Char} (written : escape character = ['\\', code])
    (other : code ≠ 'u')
    (read : ∀ (place : ReadPlace) (rest : List Char), place.rest = code :: rest →
      readEscape place = .ok (character, place.after code rest)) :
    Escaped character := by
  refine ⟨[code], written, fun place tail left => ⟨_, read place tail left, ?_,
    ReadPlace.rest_after _ _ _⟩⟩
  unfold skipEscape
  split
  next unicode => exact absurd (List.cons.inj (left.symm.trans unicode)).1 other
  next => rw [read place tail left]; rfl

theorem escaped_of_control {character : Char} (control : character.toNat < 32)
    (written : escape character = ['\\', 'u', '0', '0', hexDigit (character.toNat / 16),
      hexDigit (character.toNat % 16)]) :
    Escaped character := by
  refine ⟨_, written, fun place tail left => ?_⟩
  obtain ⟨after, digits, rest⟩ := readHex_hexDigit control (ReadPlace.rest_next left)
  refine ⟨after, ?_, ?_, rest⟩
  · unfold readEscape
    rw [left]
    simp only [List.cons_append]
    rw [readCodePoint_of_readHex control digits, Char.ofNat_toNat]
  · unfold skipEscape
    rw [left]
    simp only [List.cons_append]
    rw [digits]
    rfl

/-- The characters with an escape of their own, and its letter. -/
def letters : List (Char × Char) :=
  [('"', '"'), ('\\', '\\'), ('\x08', 'b'), ('\x0c', 'f'), ('\n', 'n'), ('\r', 'r'), ('\t', 't')]

theorem escaped_of_mem_letters {pair : Char × Char} (member : pair ∈ letters) :
    Escaped pair.1 := by
  simp only [letters, List.mem_cons, List.not_mem_nil, or_false] at member
  rcases member with rfl | rfl | rfl | rfl | rfl | rfl | rfl <;>
    exact escaped_of_letter rfl (by decide) fun place rest left => by
      unfold readEscape; rw [left]; rfl

/-- Every character is written as itself or as an escape. -/
theorem bare_or_escaped (character : Char) : Bare character ∨ Escaped character := by
  by_cases lettered : character ∈ letters.map Prod.fst
  · obtain ⟨pair, member, rfl⟩ := List.mem_map.mp lettered
    exact Or.inr (escaped_of_mem_letters member)
  simp only [letters, List.map_cons, List.map_nil, List.mem_cons, List.not_mem_nil, or_false,
    not_or] at lettered
  obtain ⟨quote, backslash, back, feed, line, turn, tab⟩ := lettered
  have written : escape character =
      if character.toNat < 32 then
        ['\\', 'u', '0', '0', hexDigit (character.toNat / 16), hexDigit (character.toNat % 16)]
      else [character] := by
    simp only [escape, quote, backslash, back, feed, line, turn, tab, if_false]
  by_cases control : character.toNat < 32
  · exact Or.inr (escaped_of_control control (by rw [written, if_pos control]))
  · exact Or.inl ⟨by rw [written, if_neg control], quote, backslash, control⟩

/-- A written text is read up to its closing quote, and skipped up to there. -/
theorem readText_escape {tail : List Char} :
    ∀ (content : List Char) (fuel : Nat) (read : List Char) (place : ReadPlace),
      content.length < fuel → place.rest = content.flatMap escape ++ '"' :: tail →
      ∃ after, readText fuel read place = .ok (String.ofList (read.reverse ++ content), after) ∧
        skipText fuel place = .ok after ∧ after.rest = tail
  | _, 0, _, _, short, _ => absurd short (Nat.not_lt_zero _)
  | [], fuel + 1, read, place, _, left => by
    refine ⟨place.after '"' tail, ?_, ?_, ReadPlace.rest_after _ _ _⟩
    · rw [readText, left]
      simp only [List.flatMap_nil, List.nil_append, List.append_nil, if_true]
    · rw [skipText, left]
      simp only [List.flatMap_nil, List.nil_append, if_true]
  | character :: content, fuel + 1, read, place, short, left => by
    have room : content.length < fuel := by
      rw [List.length_cons] at short
      omega
    rw [List.flatMap_cons, List.append_assoc] at left
    rw [List.append_cons, ← List.reverse_cons]
    rcases bare_or_escaped character with ⟨written, quote, backslash, control⟩ |
        ⟨code, written, back⟩
    · rw [written] at left
      obtain ⟨after, text, skipped, rest⟩ := readText_escape content fuel (character :: read)
        (place.after character (content.flatMap escape ++ '"' :: tail)) room
        (ReadPlace.rest_after _ _ _)
      refine ⟨after, ?_, ?_, rest⟩
      · rw [readText, left]
        simp only [List.cons_append, List.nil_append]
        rw [if_neg quote, if_neg backslash, if_neg control]
        exact text
      · rw [skipText, left]
        simp only [List.cons_append, List.nil_append]
        rw [if_neg quote, if_neg backslash, if_neg control]
        exact skipped
    · rw [written] at left
      obtain ⟨within, escaped, passed, follow⟩ := back
        (place.after '\\' (code ++ (content.flatMap escape ++ '"' :: tail)))
        (content.flatMap escape ++ '"' :: tail) (ReadPlace.rest_after _ _ _)
      obtain ⟨after, text, skipped, rest⟩ :=
        readText_escape content fuel (character :: read) within room follow
      refine ⟨after, ?_, ?_, rest⟩
      · rw [readText, left]
        simp only [List.cons_append]
        rw [if_neg (by decide), if_pos trivial, escaped]
        exact text
      · rw [skipText, left]
        simp only [List.cons_append]
        rw [if_neg (by decide), if_pos trivial, passed]
        exact skipped

theorem length_le_flatMap_escape (content : List Char) :
    content.length ≤ (content.flatMap escape).length := by
  induction content with
  | nil => exact Nat.le_refl _
  | cons character content inductionHypothesis =>
    have one : 1 ≤ (escape character).length := by
      rcases bare_or_escaped character with ⟨written, _⟩ | ⟨code, written, _⟩ <;>
        rw [written, List.length_cons] <;> omega
    rw [List.flatMap_cons, List.length_append, List.length_cons]
    omega

/-- A quoted text is read from behind its opening quote. -/
theorem readText_quote {tail : List Char} (content : String) {place : ReadPlace}
    (left : place.rest = (quote content).toList ++ tail) :
    ∃ after, readText place.rest.length [] place.next = .ok (content, after) ∧
      skipText place.rest.length place.next = .ok after ∧ after.rest = tail := by
  have opened : place.rest = '"' :: (content.toList.flatMap escape ++ '"' :: tail) := by
    rw [left, quote, String.toList_ofList]
    simp only [List.cons_append, List.append_assoc, List.nil_append]
  have long := length_le_flatMap_escape content.toList
  obtain ⟨after, read, skipped, rest⟩ :=
    readText_escape content.toList place.rest.length [] place.next
      (by rw [opened]; simp only [List.length_cons, List.length_append]; omega)
      (ReadPlace.rest_next opened)
  exact ⟨after, by rw [read, List.reverse_nil, List.nil_append, String.ofList_toList], skipped,
    rest⟩

/-! ### Numbers -/

theorem le_ofDigitChars (digits : List Char) (start : Nat) :
    start ≤ Nat.ofDigitChars 10 digits start := by
  induction digits generalizing start with
  | nil => exact Nat.le_of_eq Nat.ofDigitChars_nil.symm
  | cons digit digits inductionHypothesis =>
    rw [Nat.ofDigitChars_cons]
    exact Nat.le_trans (by omega) (inductionHypothesis _)

/-- Digits are taken up to the end of a number that 64 bits hold. -/
theorem takeDigits_append {tail : List Char}
    (stop : ∀ character ∈ tail.head?, character.isDigit = false) :
    ∀ (digits : List Char) (significand count : Nat) (place : ReadPlace),
      (∀ digit ∈ digits, digit.isDigit = true) → place.rest = digits ++ tail →
      Nat.ofDigitChars 10 digits significand < significandLimit →
      ∃ count' after, takeDigits (digits ++ tail) significand count place =
          (Nat.ofDigitChars 10 digits significand, count', false, after) ∧
        after.rest = tail
  | [], significand, count, place, _, left, _ => by
    refine ⟨count, place, ?_, left⟩
    rw [Nat.ofDigitChars_nil, List.nil_append]
    cases tail with
    | nil => rfl
    | cons character rest =>
      have other : character.isDigit = false := stop character rfl
      rw [takeDigits, other, if_neg Bool.false_ne_true]
  | digit :: digits, significand, count, place, all, left, small => by
    have isDigit : digit.isDigit = true := all digit List.mem_cons_self
    rw [Nat.ofDigitChars_cons] at small
    have grown : significand * 10 + digitValue digit =
        10 * significand + (digit.toNat - '0'.toNat) := by
      rw [Nat.mul_comm]
      rfl
    obtain ⟨count', after, taken, rest⟩ := takeDigits_append stop digits _ (count + 1)
      (place.after digit (digits ++ tail))
      (fun other member => all other (List.mem_cons_of_mem _ member))
      (ReadPlace.rest_after _ _ _) small
    refine ⟨count', after, ?_, rest⟩
    rw [List.cons_append, takeDigits, if_pos isDigit, grown, Nat.ofDigitChars_cons]
    simp only [if_pos (Nat.lt_of_le_of_lt (le_ofDigitChars digits _) small)]
    exact taken

/-- A number with a leading zero is zero. -/
theorem toDigits_zero_cons {rest : List Char} :
    ∀ (value : Nat), Nat.toDigits 10 value = '0' :: rest → rest = [] := by
  intro value
  induction value using Nat.strongRecOn generalizing rest with
  | ind value inductionHypothesis =>
    intro written
    rw [Nat.toDigits_eq_if (by decide)] at written
    by_cases short : value < 10
    · rw [if_pos short] at written
      exact (List.cons.inj written).2.symm
    · rw [if_neg short] at written
      cases front : Nat.toDigits 10 (value / 10) with
      | nil => exact absurd front Nat.toDigits_ne_nil
      | cons digit digits =>
        rw [front, List.cons_append] at written
        obtain ⟨rfl, _⟩ := List.cons.inj written
        have alone : digits = [] := inductionHypothesis (value / 10) (by omega) front
        have zero : Nat.ofDigitChars 10 (Nat.toDigits 10 (value / 10)) 0 = 0 := by
          rw [front, alone]
          rfl
        rw [Nat.ofDigitChars_ten_toDigits] at zero
        omega

/-- A number starts with a digit. -/
theorem repr_starts (value : Nat) :
    ∃ digit rest, value.repr.toList = digit :: rest ∧ digit.isDigit = true := by
  rw [Nat.toList_repr]
  cases digits : Nat.toDigits 10 value with
  | nil => exact absurd digits Nat.toDigits_ne_nil
  | cons digit rest =>
    refine ⟨digit, rest, rfl, Nat.isDigit_of_mem_toDigits (b := 10) (n := value) ?_ ?_ ?_⟩
    · decide
    · decide
    · rw [digits]
      exact List.mem_cons_self

theorem isDigit_of_closes {tail : List Char} (closes : Closes tail) :
    ∀ character ∈ tail.head?, character.isDigit = false := by
  intro character member
  have close := closes character member
  simp only [List.mem_cons, List.not_mem_nil, or_false] at close
  rcases close with rfl | rfl | rfl | rfl <;> rfl

/-- A natural number of 64 bits is read back. -/
theorem readNumber_repr {tail : List Char} (closes : Closes tail) {value : Nat}
    (small : value < significandLimit) {place : ReadPlace}
    (left : place.rest = value.repr.toList ++ tail) :
    ∃ after, readNumber false place = .ok (.integer value, after) ∧ after.rest = tail := by
  have stop := isDigit_of_closes closes
  rw [Nat.toList_repr] at left
  obtain ⟨count, after, taken, rest⟩ := takeDigits_append stop (Nat.toDigits 10 value) 0 0 place
    (fun digit member => Nat.isDigit_of_mem_toDigits (by decide) (by decide) member) left
    (by rw [Nat.ofDigitChars_ten_toDigits]; exact small)
  rw [Nat.ofDigitChars_ten_toDigits] at taken
  refine ⟨after, ?_, rest⟩
  cases digits : Nat.toDigits 10 value with
  | nil => exact absurd digits Nat.toDigits_ne_nil
  | cons first others =>
    obtain ⟨digit, rest', written, isDigit⟩ := repr_starts value
    rw [Nat.toList_repr, digits] at written
    obtain ⟨rfl, rfl⟩ := List.cons.inj written
    have noZero : ¬ (first = '0' ∧ (others ++ tail).head?.any Char.isDigit) := by
      rintro ⟨rfl, more⟩
      rw [toDigits_zero_cons value digits, List.nil_append, Option.any_eq_true] at more
      obtain ⟨character, member, digit⟩ := more
      exact Bool.false_ne_true ((stop character member).symm.trans digit)
    unfold readNumber
    rw [left, digits]
    simp only [List.cons_append]
    rw [digits, List.cons_append] at taken
    rw [if_pos isDigit, taken]
    simp only [if_neg noZero, Bool.false_eq_true, if_false, rest]
    cases tail with
    | nil => rfl
    | cons character tail =>
      have close := closes character rfl
      simp only [List.mem_cons, List.not_mem_nil, or_false] at close
      rcases close with rfl | rfl | rfl | rfl <;> rfl

theorem skipDigits_append {tail : List Char}
    (stop : ∀ character ∈ tail.head?, character.isDigit = false) :
    ∀ (digits : List Char) (count : Nat) (place : ReadPlace),
      (∀ digit ∈ digits, digit.isDigit = true) → place.rest = digits ++ tail →
      ∃ after, skipDigits (digits ++ tail) count place = (count + digits.length, after) ∧
        after.rest = tail
  | [], count, place, _, left => by
    refine ⟨place, ?_, left⟩
    rw [List.nil_append]
    cases tail with
    | nil => rfl
    | cons character rest =>
      have other : character.isDigit = false := stop character rfl
      rw [skipDigits, other, if_neg Bool.false_ne_true]
      rfl
  | digit :: digits, count, place, all, left => by
    obtain ⟨after, skipped, rest⟩ := skipDigits_append stop digits (count + 1)
      (place.after digit (digits ++ tail))
      (fun other member => all other (List.mem_cons_of_mem _ member)) (ReadPlace.rest_after _ _ _)
    refine ⟨after, ?_, rest⟩
    rw [List.cons_append, skipDigits, if_pos (all digit List.mem_cons_self), skipped,
      List.length_cons, Nat.add_assoc, Nat.add_comm 1]

/-- A natural number is skipped, however many digits it has. -/
theorem skipNumber_repr {tail : List Char} (closes : Closes tail) {value : Nat} {place : ReadPlace}
    (left : place.rest = value.repr.toList ++ tail) :
    ∃ after, skipNumber place = .ok after ∧ after.rest = tail := by
  rw [Nat.toList_repr] at left
  obtain ⟨after, skipped, rest⟩ := skipDigits_append (isDigit_of_closes closes)
    (Nat.toDigits 10 value) 0 place
    (fun digit member => Nat.isDigit_of_mem_toDigits (by decide) (by decide) member) left
  refine ⟨after, ?_, rest⟩
  have noZero : ¬ (place.rest.head? = some '0' ∧ 1 < (Nat.toDigits 10 value).length) := by
    rintro ⟨zero, long⟩
    cases digits : Nat.toDigits 10 value with
    | nil => exact Nat.toDigits_ne_nil digits
    | cons first others =>
      rw [left, digits] at zero
      obtain rfl := Option.some.inj zero
      rw [digits, toDigits_zero_cons value digits] at long
      exact Nat.lt_irrefl _ long
  have whole : skipOptionalExponent after = .ok after := by
    unfold skipOptionalExponent
    rw [rest]
    cases tail with
    | nil => rfl
    | cons character tail =>
      have close := closes character rfl
      simp only [List.mem_cons, List.not_mem_nil, or_false] at close
      rcases close with rfl | rfl | rfl | rfl <;> rfl
  obtain ⟨count, some⟩ : ∃ count, (Nat.toDigits 10 value).length = count + 1 :=
    Nat.exists_eq_succ_of_ne_zero fun none => Nat.toDigits_ne_nil (List.length_eq_zero_iff.1 none)
  unfold skipNumber
  rw [left, skipped, Nat.zero_add, some]
  rw [left, some] at noZero
  simp only [if_neg noZero, rest]
  split
  next => exact absurd (closes '.' rfl) (by decide)
  next => exact whole

end Declarations.Json
