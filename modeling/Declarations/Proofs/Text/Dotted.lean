/-
This file proves what dotted names keep of their first part: a name inside a scope begins with
the first part of the scope, and so does every front of a name with the first part of the name.
A scope comes before all names inside it, so the fronts of a name come in descending order.
-/

import Declarations.Text.Dotted

namespace Declarations.Dotted

/-- Whatever follows a dot does not show in what comes before the first dot. -/
theorem takeWhile_append_dot (front back : List Char) :
    (front ++ '.' :: back).takeWhile (· ≠ '.') = front.takeWhile (· ≠ '.') := by
  induction front with
  | nil => rfl
  | cons character rest hypothesis =>
    rw [List.cons_append, List.takeWhile_cons, List.takeWhile_cons, hypothesis]

theorem toList_below (scope name : String) :
    (below scope name).toList = scope.toList ++ '.' :: name.toList := by
  simp [below]

theorem below_right_inj {scope name other : String} :
    below scope name = below scope other ↔ name = other := by
  rw [below, below, String.append_right_inj]

theorem head_below (scope name : String) : head (below scope name) = head scope := by
  rw [head, head, toList_below, takeWhile_append_dot]

theorem head_of_undotted {name : String} (undotted : '.' ∉ name.toList) : head name = name := by
  have plain : ∀ character ∈ name.toList, decide (character ≠ '.') = true :=
    fun character member => decide_eq_true fun same => undotted (same ▸ member)
  have whole : (name.toList ++ []).takeWhile (· ≠ '.') =
      name.toList ++ [].takeWhile (· ≠ '.') := List.takeWhile_append_of_pos plain
  rw [List.append_nil, List.takeWhile_nil, List.append_nil] at whole
  rw [head, whole, String.ofList_toList]

theorem head_append_afterHead (name : String) : head name ++ afterHead name = name := by
  rw [head, afterHead, ← String.ofList_append, List.takeWhile_append_dropWhile,
    String.ofList_toList]

/-- What follows a first part is nothing, or stands behind a dot. -/
theorem afterHead_cases (name : String) :
    afterHead name = "" ∨ ∃ tail, afterHead name = "." ++ tail := by
  unfold afterHead
  cases behind : name.toList.dropWhile (· ≠ '.') with
  | nil => exact Or.inl rfl
  | cons character tail =>
    have dot : character = '.' := by
      have stopped := List.head?_dropWhile_not (· ≠ '.') name.toList
      rw [behind] at stopped
      simpa using stopped
    exact Or.inr ⟨String.ofList tail, by rw [dot, ← String.toList_inj]; simp⟩

theorem head_append_rest (key name : String) :
    head (key ++ afterHead name) = head key := by
  rcases afterHead_cases name with none | ⟨tail, same⟩
  · rw [none, String.append_empty]
  · rw [same, ← String.append_assoc]
    exact head_below key tail

/-- A cut is made at the first character, where this is a dot, or further behind. -/
theorem mem_cuts_cons {character : Char} {rest front back : List Char}
    (member : (front, back) ∈ cuts (character :: rest)) :
    (character = '.' ∧ front = [] ∧ back = character :: rest) ∨
      ∃ inner, (inner, back) ∈ cuts rest ∧ front = character :: inner := by
  unfold cuts at member
  dsimp only at member
  split at member
  next dot =>
    rcases List.mem_cons.1 member with same | behind
    · cases same
      exact Or.inl ⟨dot, rfl, rfl⟩
    · obtain ⟨⟨inner, tail⟩, inside, same⟩ := List.mem_map.1 behind
      cases same
      exact Or.inr ⟨inner, inside, rfl⟩
  next =>
    obtain ⟨⟨inner, tail⟩, inside, same⟩ := List.mem_map.1 member
    cases same
    exact Or.inr ⟨inner, inside, rfl⟩

/-- A cut of a text gives the text back, and its second part begins with a dot. -/
theorem eq_append_of_mem_cuts {text front back : List Char} (member : (front, back) ∈ cuts text) :
    ∃ rest, back = '.' :: rest ∧ text = front ++ '.' :: rest := by
  induction text generalizing front with
  | nil => cases member
  | cons character rest hypothesis =>
    rcases mem_cuts_cons member with ⟨rfl, rfl, rfl⟩ | ⟨inner, inside, rfl⟩
    · exact ⟨rest, rfl, rfl⟩
    · obtain ⟨after, here, whole⟩ := hypothesis inside
      exact ⟨after, here, by rw [whole, List.cons_append]⟩

/-- A name is cut in front of each of its dots. -/
theorem mem_cuts_append (front rest : List Char) :
    (front, '.' :: rest) ∈ cuts (front ++ '.' :: rest) := by
  induction front with
  | nil =>
    rw [List.nil_append, cuts, if_pos rfl]
    exact List.mem_cons_self
  | cons character front hypothesis =>
    rw [List.cons_append, cuts]
    dsimp only
    split
    · exact List.mem_cons_of_mem _ (List.mem_map.2 ⟨_, hypothesis, rfl⟩)
    · exact List.mem_map.2 ⟨_, hypothesis, rfl⟩

/-- The fronts of a name are what stands in front of one of its dots, each with the rest of the
name. -/
theorem mem_fronts_iff {name front back : String} :
    (front, back) ∈ fronts name ↔ ∃ tail, back = "." ++ tail ∧ name = below front tail := by
  constructor
  · intro member
    obtain ⟨⟨before, after⟩, inside, same⟩ := List.mem_map.1 member
    cases same
    obtain ⟨tail, rfl, whole⟩ := eq_append_of_mem_cuts (List.mem_reverse.1 inside)
    refine ⟨String.ofList tail, String.toList_injective (by simp), String.toList_injective ?_⟩
    rw [toList_below, String.toList_ofList, String.toList_ofList, whole]
  · rintro ⟨tail, rfl, rfl⟩
    have cut := mem_cuts_append front.toList tail.toList
    rw [← toList_below] at cut
    refine List.mem_map.2 ⟨_, List.mem_reverse.2 cut, Prod.ext String.ofList_toList ?_⟩
    exact String.toList_injective (by simp)

/-- A name is one of its fronts with the rest below it. -/
theorem eq_below_of_mem_fronts {name front rest : String} (member : (front, rest) ∈ fronts name) :
    ∃ tail, name = below front tail := by
  obtain ⟨tail, -, whole⟩ := mem_fronts_iff.1 member
  exact ⟨tail, whole⟩

/-- A scope is a front of each name below it. -/
theorem mem_fronts_below (front tail : String) :
    ∃ rest, (front, rest) ∈ fronts (below front tail) :=
  ⟨_, mem_fronts_iff.2 ⟨tail, rfl, rfl⟩⟩

theorem head_of_mem_fronts {name front rest : String} (member : (front, rest) ∈ fronts name) :
    head front = head name := by
  obtain ⟨tail, rfl⟩ := eq_below_of_mem_fronts member
  exact (head_below front tail).symm

theorem eq_below_of_toList {name front : String} {tail : List Char}
    (same : name.toList = front.toList ++ '.' :: tail) :
    name = below front (String.ofList tail) := by
  refine String.toList_injective ?_
  rw [toList_below, String.toList_ofList, same]

/-- Two ways to cut a name cut it at the same dot, or one further in front than the other. -/
theorem below_cases {base name front tail : String} (same : below base name = below front tail) :
    front = base ∨ (∃ more, base = below front more) ∨
      ∃ more, front = below base more ∧ name = below more tail := by
  have characters := congrArg String.toList same
  rw [toList_below, toList_below] at characters
  rcases List.append_eq_append_iff.mp characters with
    ⟨between, longer, ends⟩ | ⟨between, longer, ends⟩
  · cases between with
    | nil => exact .inl (String.toList_injective (by rw [longer, List.append_nil]))
    | cons dot between =>
      obtain ⟨rfl, more⟩ := List.cons.inj ends
      refine .inr (.inr ⟨String.ofList between, eq_below_of_toList longer, ?_⟩)
      refine String.toList_injective ?_
      rw [toList_below, String.toList_ofList, more]
      rfl
  · cases between with
    | nil => exact .inl (String.toList_injective (by rw [longer, List.append_nil]))
    | cons dot between =>
      obtain ⟨rfl, -⟩ := List.cons.inj ends
      exact .inr (.inl ⟨String.ofList between, eq_below_of_toList longer⟩)

/-! ### Order -/

theorem lt_below (scope name : String) : scope < below scope name := by
  show scope.toList < (below scope name).toList
  have longer : scope.toList ++ [] < scope.toList ++ '.' :: name.toList :=
    List.append_left_lt (List.nil_lt_cons _ _)
  rwa [List.append_nil, ← toList_below] at longer

theorem below_ne (scope name : String) : below scope name ≠ scope :=
  fun same => String.lt_irrefl scope (lt_of_lt_of_eq (lt_below scope name) same)

theorem pairwise_cuts (text : List Char) :
    (cuts text).Pairwise fun shorter longer => ∃ more, longer.1 = shorter.1 ++ '.' :: more := by
  induction text with
  | nil => exact .nil
  | cons character rest hypothesis =>
    have deeper : (cuts rest).Pairwise fun shorter longer =>
        ∃ more, character :: longer.1 = character :: shorter.1 ++ '.' :: more := by
      refine hypothesis.imp ?_
      rintro _ _ ⟨more, longer⟩
      exact ⟨more, congrArg (character :: ·) longer⟩
    rw [cuts]
    dsimp only
    split
    next dot =>
      refine List.pairwise_cons.2 ⟨fun cut member => ?_, List.pairwise_map.2 deeper⟩
      obtain ⟨inner, -, rfl⟩ := List.mem_map.1 member
      exact ⟨inner.1, by rw [dot]; rfl⟩
    next => exact List.pairwise_map.2 deeper

/-- Each front of a name stands below all those that come after it. -/
theorem pairwise_fronts_below (name : String) :
    (fronts name).Pairwise fun first second => ∃ tail, first.1 = below second.1 tail := by
  refine List.pairwise_map.2 (List.pairwise_reverse.2 ((pairwise_cuts name.toList).imp ?_))
  rintro ⟨shorter, -⟩ ⟨-, -⟩ ⟨more, rfl⟩
  exact ⟨String.ofList more, eq_below_of_toList (by rw [String.toList_ofList, String.toList_ofList])⟩

/-- The fronts of a name come in descending order. -/
theorem pairwise_fronts (name : String) :
    (fronts name).Pairwise fun first second => second.1 < first.1 := by
  refine (pairwise_fronts_below name).imp ?_
  rintro ⟨_, _⟩ ⟨shorter, _⟩ ⟨tail, rfl⟩
  exact lt_below shorter tail

theorem length_lt_below (scope name : String) : scope.length < (below scope name).length := by
  rw [← String.length_toList, ← String.length_toList, toList_below, List.length_append,
    List.length_cons]
  omega

/-- A name and its fronts come longest first. -/
theorem pairwise_length_fronts (name : String) :
    (name :: (fronts name).map (·.1)).Pairwise
      fun first second => second.length < first.length := by
  refine List.pairwise_cons.2 ⟨fun front member => ?_, List.pairwise_map.2 ?_⟩
  · obtain ⟨⟨front, rest⟩, among, rfl⟩ := List.mem_map.1 member
    obtain ⟨tail, rfl⟩ := eq_below_of_mem_fronts among
    exact length_lt_below front tail
  · refine (pairwise_fronts_below name).imp ?_
    rintro ⟨_, _⟩ ⟨shorter, _⟩ ⟨tail, rfl⟩
    exact length_lt_below shorter tail

/-- Of two fronts of a name the longer one comes later. -/
theorem lt_of_length_lt {base name front tail : String} (same : below base name = below front tail)
    (shorter : base.length < front.length) : base < front := by
  rcases below_cases same with rfl | ⟨more, rfl⟩ | ⟨more, rfl, -⟩
  · exact absurd shorter (Nat.lt_irrefl _)
  · exact absurd (length_lt_below front more) (Nat.lt_asymm shorter)
  · exact lt_below base more

/-! ### Parts -/

theorem join_parts (name : String) : join (parts name) = name := by
  have back : String.toList ∘ String.ofList = id := funext fun text => String.toList_ofList
  refine String.toList_injective ?_
  rw [join, parts, String.toList_intercalate, List.map_map, back, List.map_id]
  exact List.intercalate_splitOn '.'

theorem join_append {front back : List String} (frontFilled : front ≠ []) (backFilled : back ≠ []) :
    join (front ++ back) = below (join front) (join back) :=
  String.intercalate_append_of_ne_nil frontFilled backFilled

/-- The first parts of a name are nothing, all of it, or what stands in front of a dot. -/
theorem join_take_parts (name : String) (count : Nat) :
    join ((parts name).take count) = "" ∨ join ((parts name).take count) = name ∨
      ∃ tail, name = below (join ((parts name).take count)) tail := by
  by_cases none : (parts name).take count = []
  · exact .inl (by rw [none]; rfl)
  by_cases all : (parts name).drop count = []
  · refine .inr (.inl ?_)
    rw [List.take_of_length_le (List.drop_eq_nil_iff.mp all), join_parts]
  · refine .inr (.inr ⟨join ((parts name).drop count), ?_⟩)
    rw [← join_append none all, List.take_append_drop, join_parts]

/-! ### Names -/

theorem isName_below_iff {scope name : String} :
    isName (below scope name) = true ↔ isName scope = true ∧ isName name = true := by
  rw [isName, toList_below, List.splitOn_append_cons_self, List.all_append, Bool.and_eq_true]
  rfl

/-- The first part of a name is one. -/
theorem isName_head {name : String} (named : isName name = true) : isName (head name) = true := by
  have whole := head_append_afterHead name
  rcases afterHead_cases name with none | ⟨tail, same⟩
  · rw [none, String.append_empty] at whole
    rwa [whole]
  · rw [same, ← String.append_assoc] at whole
    rw [← whole] at named
    exact (isName_below_iff.1 named).1

/-- The first parts of a name are a name. -/
theorem isName_join_take {name : String} (named : isName name = true) {count : Nat}
    (some : (parts name).take count ≠ []) : isName (join ((parts name).take count)) = true := by
  by_cases all : (parts name).drop count = []
  · rwa [List.take_of_length_le (List.drop_eq_nil_iff.mp all), join_parts]
  · rw [← join_parts name, ← List.take_append_drop count (parts name), join_append some all] at named
    exact (isName_below_iff.1 named).1

/-- Whether a name stands behind a key depends on what follows its first part only. -/
theorem isName_append_rest_iff {key name : String} (isKey : isName key = true)
    (first : isName (head name) = true) :
    isName (key ++ afterHead name) = true ↔ isName name = true := by
  have whole := head_append_afterHead name
  rcases afterHead_cases name with none | ⟨tail, same⟩
  · rw [none, String.append_empty] at whole ⊢
    rw [whole] at first
    exact iff_of_true isKey first
  · rw [same, ← String.append_assoc] at whole ⊢
    rw [← whole]
    refine isName_below_iff.trans (Iff.trans ?_ isName_below_iff.symm)
    rw [isKey, first]

end Declarations.Dotted
