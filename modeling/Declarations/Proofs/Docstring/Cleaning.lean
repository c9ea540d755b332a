/-
This file says what cleaning leaves of a docstring. The margin is as wide as the least blanks in
front of a line take in the encoding of the text, but that many characters are removed. The two
numbers are the same where these blanks take one byte each; where they are not, the text of a
line is cut together with the blanks before it.
-/

import Declarations.Docstring.Margin
import Mathlib.Data.List.Basic
import Mathlib.Data.List.Flatten

namespace Declarations.Docstring

open Text

/-! ### Marks -/

/-- The characters of a text that are no blanks, in order. -/
def marks (text : List Char) : List Char :=
  text.filter fun character => !isBlank character

theorem marks_append (front back : List Char) : marks (front ++ back) = marks front ++ marks back :=
  List.filter_append ..

theorem marks_eq_nil_iff {text : List Char} :
    marks text = [] ↔ ∀ character ∈ text, isBlank character = true := by
  simp [marks]

theorem marks_cons_of_mark {mark : Char} (plain : isBlank mark = false) (rest : List Char) :
    marks (mark :: rest) = mark :: marks rest := by
  simp [marks, plain]

theorem marks_cons_of_blank {blank : Char} (isIt : isBlank blank = true) (rest : List Char) :
    marks (blank :: rest) = marks rest := by
  simp [marks, isIt]

theorem isBlank_of_mem_takeWhile {line : List Char} {character : Char}
    (member : character ∈ line.takeWhile isBlank) : isBlank character = true :=
  List.all_eq_true.1 List.all_takeWhile character member

/-- Only blanks are trimmed. -/
theorem marks_trimStart (line : List Char) : marks (trimStart line) = marks line := by
  have blanks : marks (line.takeWhile isBlank) = [] :=
    marks_eq_nil_iff.2 fun _ member => isBlank_of_mem_takeWhile member
  calc marks (trimStart line)
      = marks (line.takeWhile isBlank) ++ marks (line.dropWhile isBlank) := by
        rw [blanks, List.nil_append, trimStart]
    _ = marks line := by rw [← marks_append, List.takeWhile_append_dropWhile]

/-- Expanding tabs changes nothing but blanks. -/
theorem marks_expandTabs (column : Nat) (text : List Char) :
    marks (expandTabs column text) = marks text := by
  have tab : isBlank '\t' = true := by decide +kernel
  have space : isBlank ' ' = true := by decide +kernel
  induction text generalizing column with
  | nil => rfl
  | cons character rest hypothesis =>
    have kept (column : Nat) :
        marks (character :: expandTabs column rest) = marks (character :: rest) := by
      cases isIt : isBlank character with
      | true => rw [marks_cons_of_blank isIt, marks_cons_of_blank isIt, hypothesis]
      | false => rw [marks_cons_of_mark isIt, marks_cons_of_mark isIt, hypothesis]
    unfold expandTabs
    split
    next same =>
      have spaces (count : Nat) : marks (List.replicate count ' ') = [] :=
        marks_eq_nil_iff.2 fun _ member => (List.eq_of_mem_replicate member) ▸ space
      rw [marks_append, spaces, List.nil_append, hypothesis, same, marks_cons_of_blank tab]
    next =>
      split
      · exact kept 0
      · exact kept (column + 1)

/-! ### Lines -/

/-- Whether a line holds more than blanks. -/
def isFilled (line : List Char) : Bool :=
  !(trimStart line).isEmpty

/-- How many blanks stand in front of a line. -/
def blanksBefore (line : List Char) : Nat :=
  (line.takeWhile isBlank).length

theorem isFilled_iff {line : List Char} : isFilled line = true ↔ marks line ≠ [] := by
  rw [isFilled, Bool.not_eq_true', ← marks_trimStart, trimStart]
  cases behind : line.dropWhile isBlank with
  | nil => simp [marks]
  | cons mark rest =>
    have stopped := List.head?_dropWhile_not isBlank line
    rw [behind] at stopped
    rw [marks_cons_of_mark (by simpa using stopped)]
    simp

/-- A line that holds more than blanks is the blanks in front of it and what begins with a mark. -/
theorem exists_mark_of_isFilled {line : List Char} (filled : isFilled line = true) :
    ∃ blanks mark rest, (∀ character ∈ blanks, isBlank character = true) ∧
      isBlank mark = false ∧ blanks.length = blanksBefore line ∧ line = blanks ++ mark :: rest := by
  have whole := List.takeWhile_append_dropWhile (p := isBlank) (l := line)
  cases behind : line.dropWhile isBlank with
  | nil =>
    rw [isFilled, trimStart, behind] at filled
    cases filled
  | cons mark rest =>
    have stopped := List.head?_dropWhile_not isBlank line
    rw [behind] at stopped whole
    exact ⟨line.takeWhile isBlank, mark, rest, fun _ => isBlank_of_mem_takeWhile,
      by simpa using stopped, rfl, whole.symm⟩

/-- A line keeps its marks exactly where no more characters are removed than blanks stand in front
of it; all of these are blanks then. -/
theorem marks_drop_eq_iff (line : List Char) (width : Nat) :
    marks (line.drop width) = marks line ↔ (isFilled line = true → width ≤ blanksBefore line) := by
  by_cases filled : isFilled line = true
  · obtain ⟨blanks, mark, rest, blank, plain, length, rfl⟩ := exists_mark_of_isFilled filled
    have none : marks blanks = [] := marks_eq_nil_iff.2 blank
    rw [forall_prop_of_true filled, ← length, marks_append, none, List.nil_append,
      marks_cons_of_mark plain]
    constructor
    · intro kept
      by_contra wide
      -- What is left lies behind the first mark, so it has fewer marks than the line.
      obtain ⟨more, rfl⟩ := Nat.exists_eq_add_of_lt (Nat.not_le.1 wide)
      have cut : (blanks ++ mark :: rest).drop (blanks.length + more + 1) = rest.drop more := by
        rw [Nat.add_assoc, List.drop_length_add_append, List.drop_succ_cons]
      have fewer : (marks (rest.drop more)).length ≤ (marks rest).length :=
        ((List.drop_sublist more rest).filter _).length_le
      rw [← cut, kept, List.length_cons] at fewer
      exact Nat.not_succ_le_self _ fewer
    · intro within
      have fewer : marks (blanks.drop width) = [] :=
        marks_eq_nil_iff.2 fun character member => blank character (List.mem_of_mem_drop member)
      rw [List.drop_append_of_le_length within, marks_append, fewer, List.nil_append,
        marks_cons_of_mark plain]
  · have none : marks line = [] := not_not.1 fun some => filled (isFilled_iff.2 some)
    have still : marks (line.drop width) = [] := by
      refine marks_eq_nil_iff.2 fun character member => ?_
      exact marks_eq_nil_iff.1 none character (List.mem_of_mem_drop member)
    rw [still, none]
    exact iff_of_true rfl fun isFilled => absurd isFilled filled

/-- What stands in front of the first mark of a line is blank. -/
theorem isBlank_of_mem_take {line : List Char} {width : Nat} (within : width ≤ blanksBefore line) :
    ∀ character ∈ line.take width, isBlank character = true := by
  intro character member
  have whole := List.takeWhile_append_dropWhile (p := isBlank) (l := line)
  rw [← whole, List.take_append_of_le_length within] at member
  exact isBlank_of_mem_takeWhile (List.mem_of_mem_take member)

/-! ### The margin -/

/-- The least number of blanks in front of the lines that hold more than blanks. -/
def leastBlanks? (lines : List (List Char)) : Option Nat :=
  ((lines.filter isFilled).map blanksBefore).min?

theorem length_le_sum_utf8Size (text : List Char) :
    text.length ≤ (text.map Char.utf8Size).foldr (· + ·) 0 := by
  induction text with
  | nil => exact Nat.le_refl 0
  | cons character rest hypothesis =>
    have positive := character.utf8Size_pos
    rw [List.length_cons, List.map_cons, List.foldr_cons]
    omega

theorem sum_utf8Size_of_narrow {text : List Char}
    (narrow : ∀ character ∈ text, character.utf8Size = 1) :
    (text.map Char.utf8Size).foldr (· + ·) 0 = text.length := by
  induction text with
  | nil => rfl
  | cons character rest hypothesis =>
    obtain ⟨one, others⟩ := List.forall_mem_cons.1 narrow
    rw [List.map_cons, List.foldr_cons, hypothesis others, one, List.length_cons, Nat.add_comm]

/-- The blanks in front of a line take at least a byte each. -/
theorem blanksBefore_le_indentation (line : List Char) : blanksBefore line ≤ indentation line :=
  length_le_sum_utf8Size _

/-- Two measures of values have the same least value exactly where the least value of the larger one
is no more than the smaller one at any value. -/
theorem min?_map_eq_iff {α : Type} {smaller larger : α → Nat}
    (ordered : ∀ value, smaller value ≤ larger value) (values : List α) :
    (values.map larger).min? = (values.map smaller).min? ↔
      ∀ value ∈ values, (values.map larger).min?.getD 0 ≤ smaller value := by
  cases values with
  | nil => exact iff_of_true rfl fun _ member => nomatch member
  | cons first rest =>
    have least (measure : α → Nat) : ∃ least, ((first :: rest).map measure).min? = some least :=
      Option.ne_none_iff_exists'.1 fun none => List.cons_ne_nil _ _ (List.min?_eq_none_iff.1 none)
    obtain ⟨high, isHigh⟩ := least larger
    obtain ⟨low, isLow⟩ := least smaller
    obtain ⟨highMember, highLeast⟩ := List.min?_eq_some_iff.1 isHigh
    obtain ⟨lowMember, lowLeast⟩ := List.min?_eq_some_iff.1 isLow
    rw [isHigh, isLow, Option.some_inj, Option.getD_some]
    constructor
    · rintro rfl value member
      exact lowLeast _ (List.mem_map_of_mem member)
    · intro within
      obtain ⟨lowest, among, rfl⟩ := List.mem_map.1 lowMember
      obtain ⟨highest, inside, rfl⟩ := List.mem_map.1 highMember
      exact Nat.le_antisymm (within lowest among)
        (Nat.le_trans (lowLeast _ (List.mem_map_of_mem inside)) (ordered highest))

theorem margin?_eq_iff (lines : List (List Char)) :
    margin? lines = leastBlanks? lines ↔
      ∀ line ∈ lines, isFilled line = true → (margin? lines).getD 0 ≤ blanksBefore line := by
  refine (min?_map_eq_iff blanksBefore_le_indentation (lines.filter isFilled)).trans ?_
  simp only [List.mem_filter, and_imp]
  rfl

/-- The margin is the least number of blanks where each of these takes one byte. -/
theorem margin?_of_narrow {lines : List (List Char)} (narrow : ∀ line ∈ lines,
    isFilled line = true → ∀ character ∈ line.takeWhile isBlank, character.utf8Size = 1) :
    margin? lines = leastBlanks? lines := by
  refine congrArg List.min? (List.map_congr_left fun line member => ?_)
  obtain ⟨among, filled⟩ := List.mem_filter.1 member
  exact sum_utf8Size_of_narrow (narrow line among filled)

/-! ### Joined lines -/

/-- The lines of a docstring with its tabs expanded. -/
def linesOf (text : String) : List (List Char) :=
  (expandTabs 0 text.toList).splitOn '\n'

theorem joinLines_linesOf (text : String) : joinLines (linesOf text) = expandTabs 0 text.toList :=
  List.intercalate_splitOn '\n'

/-- There is no line end in a line. -/
theorem not_mem_of_mem_splitOn {text line : List Char} (member : line ∈ text.splitOn '\n') :
    '\n' ∉ line := by
  induction text generalizing line with
  | nil =>
    rw [List.splitOn_nil, List.mem_singleton] at member
    exact member ▸ List.not_mem_nil
  | cons character rest hypothesis =>
    rw [List.splitOn_eq_splitOnP, List.splitOnP_cons_eq_if_modifyHead,
      ← List.splitOn_eq_splitOnP] at member
    split at member
    · rcases List.mem_cons.1 member with rfl | later
      · exact List.not_mem_nil
      · exact hypothesis later
    next other =>
      obtain ⟨first, others, same⟩ :=
        List.exists_cons_of_ne_nil (List.splitOn_ne_nil '\n' rest)
      rw [same] at member hypothesis
      rcases List.mem_cons.1 member with rfl | later
      · rw [List.mem_cons]
        rintro (rfl | inside)
        · exact other rfl
        · exact hypothesis List.mem_cons_self inside
      · exact hypothesis (List.mem_cons_of_mem _ later)

/-- A line end stands in front of every line but the first. -/
theorem joinLines_cons (first : List Char) (rest : List (List Char)) :
    joinLines (first :: rest) = first ++ rest.flatMap ('\n' :: ·) := by
  induction rest generalizing first with
  | nil => simp [joinLines]
  | cons second rest hypothesis =>
    rw [joinLines, List.intercalate_cons_cons, ← joinLines, hypothesis, List.flatMap_cons,
      List.append_assoc]
    rfl

theorem marks_joinLines (lines : List (List Char)) :
    marks (joinLines lines) = lines.flatMap marks := by
  have lineEnd : isBlank '\n' = true := by decide +kernel
  have behind (rest : List (List Char)) :
      marks (rest.flatMap ('\n' :: ·)) = rest.flatMap marks := by
    rw [marks, List.filter_flatMap]
    exact List.flatMap_congr fun line _ => marks_cons_of_blank lineEnd line
  cases lines with
  | nil => rfl
  | cons first rest => rw [joinLines_cons, marks_append, behind, List.flatMap_cons]

/-- Only the lines that hold more than blanks have marks. -/
theorem flatMap_marks_filter (lines : List (List Char)) :
    (lines.filter isFilled).flatMap marks = lines.flatMap marks := by
  induction lines with
  | nil => rfl
  | cons first rest hypothesis =>
    rw [List.flatMap_cons, ← hypothesis, List.filter_cons]
    split
    · rw [List.flatMap_cons]
    next blank => rw [not_not.1 fun some => blank (isFilled_iff.2 some), List.nil_append]

/-- Joining fewer lines only leaves characters out. -/
theorem joinLines_sublist {fewer lines : List (List Char)} (within : fewer.Sublist lines) :
    (joinLines fewer).Sublist (joinLines lines) := by
  induction within with
  | slnil => exact List.Sublist.refl _
  | cons first within hypothesis =>
    refine hypothesis.trans ?_
    rename_i lines
    cases lines with
    | nil => exact List.nil_sublist _
    | cons second rest =>
      rw [joinLines_cons, joinLines_cons, List.flatMap_cons]
      exact ((List.Sublist.refl _).cons _).trans (List.sublist_append_right _ _)
  | cons_cons first within _ =>
    rw [joinLines_cons, joinLines_cons]
    exact (within.flatMap _).append_left first

/-! ### Removing -/

/-- The lines after the first lose as many characters as the margin is wide. -/
theorem removeMargin_cons (first : List Char) (others : List (List Char)) :
    removeMargin (first :: others) =
      trimStart first :: others.map (List.drop ((margin? others).getD 0)) := by
  rw [removeMargin]
  cases margin? others with
  | some width => rfl
  | none => exact congrArg (trimStart first :: ·) (List.map_id _).symm

theorem filter_dropWhile_of_imp {α : Type} {drops keeps : α → Bool}
    (apart : ∀ value, drops value = true → keeps value = false) (values : List α) :
    (values.dropWhile drops).filter keeps = values.filter keeps := by
  induction values with
  | nil => rfl
  | cons value rest hypothesis =>
    rw [List.dropWhile_cons]
    split
    next dropped =>
      rw [hypothesis, List.filter_cons, apart value dropped, if_neg Bool.false_ne_true]
    next => rfl

/-- The empty lines that are dropped hold nothing but blanks. -/
theorem filter_dropEmptyEnds (lines : List (List Char)) :
    (dropEmptyEnds lines).filter isFilled = lines.filter isFilled := by
  have empty (line : List Char) (isIt : line.isEmpty = true) : isFilled line = false := by
    rw [List.isEmpty_iff.1 isIt]
    rfl
  rw [dropEmptyEnds, filter_dropWhile_of_imp empty, List.filter_reverse,
    filter_dropWhile_of_imp empty, List.filter_reverse, List.reverse_reverse]

theorem dropEmptyEnds_sublist (lines : List (List Char)) :
    (dropEmptyEnds lines).Sublist lines := by
  refine (List.dropWhile_sublist _).trans ?_
  have behind := (List.dropWhile_sublist List.isEmpty (l := lines.reverse)).reverse
  rwa [List.reverse_reverse] at behind

theorem toList_clean (text : String) :
    (clean text).toList = joinLines (dropEmptyEnds (removeMargin (linesOf text))) :=
  String.toList_ofList

/-- Where the parts of each value lie within other parts, all of them are the same only if they
are at every value. -/
theorem flatMap_eq_iff {α β : Type} {less more : α → List β} {values : List α}
    (within : ∀ value ∈ values, (less value).Sublist (more value)) :
    values.flatMap less = values.flatMap more ↔ ∀ value ∈ values, less value = more value := by
  refine ⟨fun same => ?_, List.flatMap_congr⟩
  induction values with
  | nil => exact fun _ member => nomatch member
  | cons value rest hypothesis =>
    obtain ⟨here, later⟩ := List.forall_mem_cons.1 within
    have onward := (List.Sublist.flatMap_right rest later).length_le
    rw [List.flatMap_cons, List.flatMap_cons] at same
    have lengths := congrArg List.length same
    rw [List.length_append, List.length_append] at lengths
    have first : less value = more value := here.eq_of_length_le (by omega)
    rw [first, List.append_cancel_left_eq] at same
    exact List.forall_mem_cons.2 ⟨first, hypothesis later same⟩

section

variable {text : String} {first : List Char} {others : List (List Char)}
variable (lines : linesOf text = first :: others)

include lines

theorem marks_clean : marks (clean text).toList = marks first ++
    others.flatMap fun line => marks (line.drop ((margin? others).getD 0)) := by
  rw [toList_clean, marks_joinLines, ← flatMap_marks_filter, filter_dropEmptyEnds,
    flatMap_marks_filter, lines, removeMargin_cons, List.flatMap_cons, marks_trimStart,
    List.flatMap_map]

theorem marks_toList : marks text.toList = marks first ++ others.flatMap marks := by
  rw [← marks_expandTabs 0, ← joinLines_linesOf, marks_joinLines, lines, List.flatMap_cons]

/-- Cleaning keeps all marks exactly where the margin is the least number of blanks. -/
theorem marks_clean_eq_iff :
    marks (clean text).toList = marks text.toList ↔ margin? others = leastBlanks? others := by
  have within (line : List Char) (_ : line ∈ others) :
      (marks (line.drop ((margin? others).getD 0))).Sublist (marks line) :=
    (List.drop_sublist _ line).filter _
  rw [marks_clean lines, marks_toList lines, List.append_cancel_left_eq, flatMap_eq_iff within,
    margin?_eq_iff]
  exact forall₂_congr fun line _ => marks_drop_eq_iff line _

/-- The lines of a cleaned docstring that hold more than blanks are the first one, trimmed, and the
others behind the margin. -/
theorem filter_splitOn_clean :
    ((clean text).toList.splitOn '\n').filter isFilled =
      (trimStart first :: others.map (List.drop ((margin? others).getD 0))).filter isFilled := by
  have undivided : ∀ line ∈ dropEmptyEnds (removeMargin (linesOf text)), '\n' ∉ line := by
    intro line member
    have among := (dropEmptyEnds_sublist _).subset member
    rw [lines, removeMargin_cons] at among
    rcases List.mem_cons.1 among with rfl | later
    · have whole : first ∈ linesOf text := lines ▸ List.mem_cons_self
      exact fun inside => not_mem_of_mem_splitOn whole ((List.dropWhile_sublist _).subset inside)
    · obtain ⟨longer, inside, rfl⟩ := List.mem_map.1 later
      have whole : longer ∈ linesOf text := lines ▸ List.mem_cons_of_mem _ inside
      exact fun inside => not_mem_of_mem_splitOn whole (List.mem_of_mem_drop inside)
  rw [← removeMargin_cons, ← lines, ← filter_dropEmptyEnds (removeMargin _), toList_clean]
  by_cases some : dropEmptyEnds (removeMargin (linesOf text)) = []
  · rw [some]
    rfl
  · rw [joinLines, List.splitOn_intercalate '\n' undivided some]

theorem clean_sublist : (clean text).toList.Sublist (expandTabs 0 text.toList) := by
  have fewer (width : Nat) : ((others.map (List.drop width)).flatMap ('\n' :: ·)).Sublist
      (others.flatMap ('\n' :: ·)) := by
    rw [List.flatMap_map]
    exact List.Sublist.flatMap_right _ fun line _ => (List.drop_sublist width line).cons_cons _
  rw [toList_clean, ← joinLines_linesOf, lines]
  refine (joinLines_sublist (dropEmptyEnds_sublist _)).trans ?_
  rw [removeMargin_cons, joinLines_cons, joinLines_cons]
  exact (List.dropWhile_sublist _).append (fewer _)

end

/-- What cleaning leaves of a docstring. Of the lines that hold more than blanks the first one is
trimmed, and every other one loses as many characters as the margin is wide; no character is added
but the spaces in place of tabs. The marks of the docstring are all kept exactly where the margin
is the least number of blanks in front of these lines. Then what they lose are blanks, and that is
so wherever the blanks in front of them take one byte each. -/
theorem clean_keeps_marks_iff (text : String) :
    ∃ first others, linesOf text = first :: others ∧
      let width := (margin? others).getD 0
      ((clean text).toList.splitOn '\n').filter isFilled =
          (trimStart first :: others.map (List.drop width)).filter isFilled ∧
        (clean text).toList.Sublist (expandTabs 0 text.toList) ∧
        (marks (clean text).toList = marks text.toList ↔ margin? others = leastBlanks? others) ∧
        (margin? others = leastBlanks? others → ∀ line ∈ others, isFilled line = true →
          leastBlanks? others = some width ∧ (line.take width).length = width ∧
            (∀ character ∈ line.take width, isBlank character = true) ∧
            isFilled (line.drop width) = true) ∧
        ((∀ line ∈ others, isFilled line = true →
            ∀ character ∈ line.takeWhile isBlank, character.utf8Size = 1) →
          margin? others = leastBlanks? others) := by
  obtain ⟨first, others, lines⟩ : ∃ first others, linesOf text = first :: others :=
    List.exists_cons_of_ne_nil (List.splitOn_ne_nil _ _)
  refine ⟨first, others, lines, filter_splitOn_clean lines, clean_sublist lines,
    marks_clean_eq_iff lines, fun same line member filled => ?_, margin?_of_narrow⟩
  have within := (margin?_eq_iff others).1 same line member filled
  have enough : blanksBefore line ≤ line.length :=
    (List.takeWhile_sublist _).length_le
  have kept := (marks_drop_eq_iff line _).2 fun _ => within
  refine ⟨?_, List.length_take_of_le (Nat.le_trans within enough), isBlank_of_mem_take within, ?_⟩
  · cases least : leastBlanks? others with
    | some width => rw [same, least, Option.getD_some]
    | none =>
      have none : others.filter isFilled = [] :=
        List.map_eq_nil_iff.1 (List.min?_eq_none_iff.1 least)
      exact absurd filled (List.filter_eq_nil_iff.1 none line member)
  · rw [isFilled_iff, kept]
    exact isFilled_iff.1 filled

/-- A docstring with a tab and spaces in front of its lines keeps its marks. -/
theorem clean_keeps_marks_iff_tab :
    clean "Shelf.\n\n\tBooks.\n         Pages.\n  " = "Shelf.\n\nBooks.\n Pages." ∧
      marks (clean "Shelf.\n\n\tBooks.\n         Pages.\n  ").toList =
        marks "Shelf.\n\n\tBooks.\n         Pages.\n  ".toList := by
  obtain ⟨first, others, lines, -, -, kept, -, narrow⟩ :=
    clean_keeps_marks_iff "Shelf.\n\n\tBooks.\n         Pages.\n  "
  have rest : others = ["".toList, "        Books.".toList, "         Pages.".toList,
      "  ".toList] := by
    have whole : linesOf "Shelf.\n\n\tBooks.\n         Pages.\n  " = ["Shelf.".toList, "".toList,
        "        Books.".toList, "         Pages.".toList, "  ".toList] := by
      decide +kernel
    rw [whole] at lines
    exact (List.cons.inj lines).2.symm
  have single : ∀ line ∈ others, isFilled line = true →
      (line.takeWhile isBlank).all (·.utf8Size == 1) = true := by
    rw [rest]
    decide +kernel
  refine ⟨by decide +kernel, kept.2 (narrow fun line member filled character blank => ?_)⟩
  exact beq_iff_eq.1 (List.all_eq_true.1 (single line member filled) character blank)

/-- Two blanks of three bytes each make a margin of six, which takes a word with it. -/
theorem clean_cuts_word :
    clean "Shelf.\n\u3000\u3000Pages." = "Shelf.\ns." ∧
      marks (clean "Shelf.\n\u3000\u3000Pages.").toList ≠
        marks "Shelf.\n\u3000\u3000Pages.".toList := by
  decide +kernel

end Declarations.Docstring
