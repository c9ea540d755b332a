/-
This file proves how the steps of a path follow from its text: a path below another adds
its steps, and another extension changes the last name only. Steps that are neither empty
nor dots lead down, so a path with many of them leads to a deep place.
-/

import Declarations.Build.ImportSearch
import Declarations.Proofs.Disk.Writing
import Mathlib.Data.List.Induction
import Mathlib.Data.List.TakeWhile

namespace Declarations

/-! ### Splitting at slashes -/

namespace Path

/-- The pieces of a text between slashes. -/
def split (text : List Char) : List String :=
  (text.splitOn '/').map String.ofList

theorem split_append_slash (front back : List Char) :
    split (front ++ '/' :: back) = split front ++ split back := by
  unfold split
  rw [List.splitOn_append_cons_self, List.map_append]

theorem split_of_not_mem {name : List Char} (plain : '/' ∉ name) :
    split name = [String.ofList name] := by
  unfold split
  rw [List.splitOn_eq_singleton plain, List.map_singleton]

/-- Whether what is written behind a text starts a new piece. -/
def IsOpen (front : List Char) : Prop :=
  front = [] ∨ ∃ before, front = before ++ ['/']

theorem IsOpen.split {front : List Char} (isOpen : IsOpen front) :
    ∃ pieces, ∀ back, split (front ++ back) = pieces ++ split back := by
  obtain rfl | ⟨before, rfl⟩ := isOpen
  · exact ⟨[], fun back => rfl⟩
  · refine ⟨Path.split before, fun back => ?_⟩
    rw [List.append_assoc, List.singleton_append, split_append_slash]

theorem IsOpen.append {front back : List Char} (frontOpen : IsOpen front) (backOpen : IsOpen back) :
    IsOpen (front ++ back) := by
  obtain rfl | ⟨before, rfl⟩ := backOpen
  · rwa [List.append_nil]
  · exact .inr ⟨front ++ before, (List.append_assoc _ _ _).symm⟩

theorem split_slashes (count : Nat) :
    split (List.replicate count '/') = List.replicate (count + 1) "" := by
  induction count with
  | zero => rfl
  | succ count inductionHypothesis =>
    have apart := split_append_slash [] (List.replicate count '/')
    rw [List.nil_append] at apart
    rw [List.replicate_succ, apart, inductionHypothesis]
    rfl

/-- Slashes behind a name add nothing but empty pieces. -/
theorem split_append_slashes {name : List Char} (plain : '/' ∉ name) (count : Nat) :
    split (name ++ List.replicate count '/') = String.ofList name :: List.replicate count "" := by
  cases count with
  | zero => rw [List.replicate_zero, List.append_nil, split_of_not_mem plain]; rfl
  | succ count =>
    rw [List.replicate_succ, split_append_slash, split_of_not_mem plain, split_slashes]
    rfl

/-! ### Texts of paths -/

/-- A name below a path is written behind it, after a slash where none is there. -/
theorem toList_join_of_relative {path : Path} {name : String}
    (relative : name.toList.head? ≠ some '/') :
    (IsOpen path.text.toList ∧ (path.join name).text.toList = path.text.toList ++ name.toList) ∨
      (path.join name).text.toList = path.text.toList ++ '/' :: name.toList := by
  unfold join
  rw [if_neg (fun absolute => relative (eq_of_beq absolute))]
  split
  next ends =>
    refine .inl ⟨?_, String.toList_append⟩
    rw [Bool.or_eq_true] at ends
    rcases ends with empty | slash
    · exact .inl (by rw [String.isEmpty_iff.mp empty]; rfl)
    · obtain ⟨before, same⟩ := List.getLast?_eq_some_iff.mp (eq_of_beq slash)
      exact .inr ⟨before, same⟩
  next =>
    right
    rw [String.toList_append, String.toList_append, List.append_assoc]
    rfl

theorem exists_toList_join (path : Path) (name : String) :
    ∃ front, IsOpen front ∧ (path.join name).text.toList = front ++ name.toList := by
  by_cases absolute : name.toList.head? = some '/'
  · refine ⟨[], .inl rfl, ?_⟩
    unfold join
    rw [if_pos (beq_iff_eq.mpr absolute)]
    rfl
  · have written : (IsOpen path.text.toList ∧ _) ∨ _ := toList_join_of_relative absolute
    rcases written with ⟨isOpen, same⟩ | same
    · exact ⟨_, isOpen, same⟩
    · exact ⟨path.text.toList ++ ['/'], .inr ⟨_, rfl⟩, by rw [same, List.append_assoc]; rfl⟩

/-- Whether a text can name what stands in a directory. -/
structure IsName (name : String) : Prop where
  nonempty : name ≠ ""
  plain : '/' ∉ name.toList
  notHere : name ≠ "."
  notUp : name ≠ ".."

theorem isName_iff {name : String} :
    IsName name ↔ name ≠ "" ∧ '/' ∉ name.toList ∧ name ≠ "." ∧ name ≠ ".." :=
  ⟨fun ⟨nonempty, plain, notHere, notUp⟩ => ⟨nonempty, plain, notHere, notUp⟩,
    fun ⟨nonempty, plain, notHere, notUp⟩ => ⟨nonempty, plain, notHere, notUp⟩⟩

instance : DecidablePred IsName :=
  fun _ => decidable_of_iff' _ isName_iff

theorem IsName.toList_ne_nil {name : String} (isName : IsName name) : name.toList ≠ [] :=
  fun empty => isName.nonempty (String.toList_eq_nil_iff.mp empty)

theorem IsName.plain_stem {stem extension : String} (isName : IsName (stem ++ "." ++ extension)) :
    '/' ∉ stem.toList := by
  refine fun slash => isName.plain ?_
  rw [String.toList_append, String.toList_append]
  exact List.mem_append_left _ (List.mem_append_left _ slash)

/-- A name without dots is not one of those that stay or lead up. -/
theorem isName_of_not_mem {name : String} (filled : name ≠ "") (plain : '/' ∉ name.toList)
    (noDot : '.' ∉ name.toList) : IsName name where
  nonempty := filled
  plain := plain
  notHere := by
    rintro rfl
    exact noDot List.mem_cons_self
  notUp := by
    rintro rfl
    exact noDot List.mem_cons_self

theorem isName_ofList {piece : List Char} (nonempty : piece ≠ []) (plain : '/' ∉ piece)
    (noDot : '.' ∉ piece) : IsName (String.ofList piece) := by
  refine isName_of_not_mem (fun empty => nonempty ?_) ?_ ?_
  · rw [← @String.toList_ofList piece, empty]
    rfl
  · rwa [String.toList_ofList]
  · rwa [String.toList_ofList]

theorem trimBack_slashes {text : List Char} (nonempty : text ≠ []) (count : Nat) :
    trimBack (List.replicate count '/' ++ text) = trimBack text := by
  induction count with
  | zero => rfl
  | succ count inductionHypothesis =>
    rw [List.replicate_succ, List.cons_append]
    have more : List.replicate count '/' ++ text ≠ [] :=
      List.append_ne_nil_of_right_ne_nil _ nonempty
    rw [trimBack, inductionHypothesis]
    exact more

/-- A name at the end stays. -/
theorem trimBack_name {name : String} (isName : IsName name) (rest : List Char) :
    trimBack (name.toList.reverse ++ rest) = name.toList.reverse ++ rest := by
  have plain : '/' ∉ name.toList.reverse := by simpa using isName.plain
  have notHere : name.toList.reverse ≠ ['.'] := by
    intro same
    refine isName.notHere (String.toList_injective ?_)
    rw [← List.reverse_reverse name.toList, same]
    rfl
  cases reversed : name.toList.reverse with
  | nil => exact absurd (List.reverse_eq_nil_iff.mp reversed) isName.toList_ne_nil
  | cons last before =>
    rw [reversed] at plain notHere
    have notSlash : last ≠ '/' := fun same => plain (same ▸ List.mem_cons_self)
    rw [List.cons_append, trimBack]
    · exact fun same => notSlash (List.cons.inj same).1
    · exact fun _ same => notSlash (List.cons.inj same).1
    · rintro more same
      obtain ⟨isDot, next⟩ := List.cons.inj same
      cases before with
      | nil => exact notHere (by rw [isDot])
      | cons second before =>
        exact plain ((List.cons.inj next).1 ▸ List.mem_cons_of_mem _ List.mem_cons_self)

variable {path : Path} {front : List Char} {name : String} {count : Nat}

/-- The names of a path that ends with a name and some slashes. -/
theorem names_of_toList (isOpen : IsOpen front) (isName : IsName name)
    (same : path.text.toList = front ++ (name.toList ++ List.replicate count '/')) :
    ∃ before, path.names = before ++ [name] := by
  obtain ⟨pieces, apart⟩ := isOpen.split
  have all : path.names = (split path.text.toList).filter fun name => name != "" && name != "." :=
    rfl
  have kept : (name != "" && name != ".") = true := by
    rw [bne_iff_ne.mpr isName.nonempty, bne_iff_ne.mpr isName.notHere, Bool.true_and]
  rw [all, same, apart, split_append_slashes isName.plain, String.ofList_toList,
    List.filter_append, List.filter_cons, if_pos kept, List.filter_replicate]
  exact ⟨_, rfl⟩

theorem fileName?_of_toList (isOpen : IsOpen front) (isName : IsName name)
    (same : path.text.toList = front ++ (name.toList ++ List.replicate count '/')) :
    path.fileName? = some name := by
  obtain ⟨before, names⟩ := names_of_toList isOpen isName same
  have last : path.components.getLast? = some name := by
    unfold components
    dsimp only
    rw [names, ← List.append_assoc, List.getLast?_concat]
  have notRoot : name ≠ "/" := by
    rintro rfl
    exact isName.plain List.mem_cons_self
  unfold fileName?
  rw [last]
  split
  next same => cases same
  next same => exact absurd (Option.some.inj same) notRoot
  next same => exact absurd (Option.some.inj same) isName.notHere
  next same => exact absurd (Option.some.inj same) isName.notUp
  next same => exact same.symm ▸ rfl

/-- A name with an extension is one that can stand in a directory. -/
theorem isName_extended {stem extension : String} (stemFilled : stem ≠ "")
    (stemPlain : '/' ∉ stem.toList) (filled : extension ≠ "") (plain : '/' ∉ extension.toList) :
    IsName (stem ++ "." ++ extension) := by
  have written : (stem ++ "." ++ extension).toList = stem.toList ++ '.' :: extension.toList := by
    simp
  have long : 3 ≤ (stem ++ "." ++ extension).toList.length := by
    rw [written, List.length_append, List.length_cons]
    have := List.length_pos_iff.mpr (mt String.toList_eq_nil_iff.mp stemFilled)
    have := List.length_pos_iff.mpr (mt String.toList_eq_nil_iff.mp filled)
    omega
  have other {name : String} (short : name.toList.length < 3) :
      stem ++ "." ++ extension ≠ name := by
    intro same
    rw [same] at long
    omega
  refine ⟨other (by decide), ?_, other (by decide), other (by decide)⟩
  rw [written, List.mem_append, List.mem_cons, not_or, not_or]
  exact ⟨stemPlain, by decide, plain⟩

theorem splitName_of_not_mem {name : String} (plain : '.' ∉ name.toList) :
    splitName name = (name, none) := by
  unfold splitName
  dsimp only
  have none : name.toList.reverse.dropWhile (· ≠ '.') = [] := by
    rw [List.dropWhile_eq_nil_iff]
    intro character member
    refine decide_eq_true ?_
    rintro rfl
    exact plain (List.mem_reverse.mp member)
  rw [none]

/-- Only the last name gets another extension. -/
theorem withExtension_of_toList (isOpen : IsOpen front) (isName : IsName name)
    (same : path.text.toList = front ++ (name.toList ++ List.replicate count '/'))
    (extension : String) :
    path.withExtension extension =
      ⟨String.ofList front ++ (splitName name).1 ++ "." ++ extension⟩ := by
  unfold withExtension
  rw [fileName?_of_toList isOpen isName same]
  dsimp only
  have trimmed : trimBack path.text.toList.reverse = name.toList.reverse ++ front.reverse := by
    rw [same, List.reverse_append, List.reverse_append, List.reverse_replicate, List.append_assoc,
      trimBack_slashes, trimBack_name isName]
    exact List.append_ne_nil_of_left_ne_nil (by simpa using isName.toList_ne_nil) _
  rw [trimmed, ← String.length_toList, ← List.length_reverse, List.drop_left, List.reverse_reverse]

end Path

/-! ### Files -/

namespace Disk

theorem locate_of_isFile {disk : Disk} {path : Path} (file : disk.isFile path = true) :
    ∃ place content, disk.locate path = .ok place ∧ disk.entry? place = some (.file content) := by
  unfold isFile at file
  split at file
  next content found =>
    obtain ⟨place, located, stands⟩ := locate_of_find found
    exact ⟨place, content, located, stands⟩
  next => cases file

/-! ### Steps that lead down -/

/-- How many steps of a path lead down: all but empty ones and dots. -/
def downs (steps : List String) : Nat :=
  steps.countP fun step => step != "" && step != "."

theorem downs_append (front back : List String) :
    downs (front ++ back) = downs front + downs back :=
  List.countP_append

theorem downs_name {name : String} (isName : Path.IsName name) : downs [name] = 1 := by
  rw [downs, List.countP_singleton, bne_iff_ne.mpr isName.nonempty,
    bne_iff_ne.mpr isName.notHere]
  rfl

theorem follow_append {disk : Disk} {place final : Place} {front back : List String}
    (followed : disk.follow place (front ++ back) = .ok final) :
    ∃ between, disk.follow place front = .ok between ∧ disk.follow between back = .ok final := by
  induction front generalizing place with
  | nil => exact ⟨place, rfl, followed⟩
  | cons step rest inductionHypothesis =>
    obtain ⟨directory, further⟩ := follow_cons_iff.mp followed
    obtain ⟨between, here, there⟩ := inductionHypothesis further
    exact ⟨between, follow_cons_iff.mpr ⟨directory, here⟩, there⟩

/-- Without steps up, a path leads as deep as it has steps down. -/
theorem length_of_follow {disk : Disk} {place final : Place} {steps : List String}
    (noUp : ".." ∉ steps) (followed : disk.follow place steps = .ok final) :
    final.length = place.length + downs steps := by
  induction steps generalizing place with
  | nil =>
    cases followed
    rfl
  | cons step rest inductionHypothesis =>
    obtain ⟨-, further⟩ := follow_cons_iff.mp followed
    have here : step ≠ ".." := fun same => noUp (same ▸ List.mem_cons_self)
    rw [inductionHypothesis (fun member => noUp (List.mem_cons_of_mem _ member)) further]
    unfold advance downs
    rw [List.countP_cons]
    by_cases stays : step = "" ∨ step = "."
    · rw [if_pos stays, if_neg (by simpa [← not_or] using stays)]
      rfl
    · rw [if_neg stays, if_neg here, if_pos (by simpa [not_or] using stays), List.length_append,
        List.length_singleton]
      omega

/-- Whether a text ends with some steps down, without a step up among them. -/
def Descends (count : Nat) (text : List Char) : Prop :=
  ∃ front back, text = front ++ back ∧ Path.IsOpen front ∧ ".." ∉ Path.split back ∧
    count ≤ downs (Path.split back)

theorem Descends.slash {count : Nat} {text more : List Char} (descends : Descends count text)
    (noUp : ".." ∉ Path.split more) : Descends count (text ++ '/' :: more) := by
  obtain ⟨front, back, rfl, isOpen, steps, enough⟩ := descends
  refine ⟨front, back ++ '/' :: more, List.append_assoc _ _ _, isOpen, ?_, ?_⟩
  · rw [Path.split_append_slash, List.mem_append, not_or]
    exact ⟨steps, noUp⟩
  · rw [Path.split_append_slash, downs_append]
    exact Nat.le_trans enough (Nat.le_add_right _ _)

theorem Descends.more {count : Nat} {text more : List Char} (descends : Descends count text)
    (isOpen : Path.IsOpen text) (noUp : ".." ∉ Path.split more) :
    Descends count (text ++ more) := by
  obtain ⟨front, back, rfl, frontOpen, steps, enough⟩ := descends
  rcases List.eq_nil_or_concat back with rfl | ⟨before, last, rfl⟩
  · exact ⟨front ++ [], more, rfl, isOpen, noUp, Nat.le_trans enough (Nat.zero_le _)⟩
  · have slash : last = '/' := by
      rcases isOpen with none | ⟨other, same⟩
      · simp at none
      · rw [List.concat_eq_append, ← List.append_assoc] at same
        exact List.singleton_inj.mp (List.append_inj_right' same rfl)
    rw [slash, List.concat_eq_append] at steps enough ⊢
    rw [Path.split_append_slash, downs_append] at enough
    rw [Path.split_append_slash, List.mem_append, not_or] at steps
    refine ⟨front, before ++ '/' :: more, by simp, frontOpen, ?_, ?_⟩
    · rw [Path.split_append_slash, List.mem_append, not_or]
      exact ⟨steps.1, noUp⟩
    · rw [Path.split_append_slash, downs_append]
      exact Nat.le_trans enough (Nat.add_le_add_left (Nat.zero_le _) _)

/-- A name below a path leads at least as deep as the path. -/
theorem Descends.join {count : Nat} {path : Path} (descends : Descends count path.text.toList)
    {name : String} (relative : name.toList.head? ≠ some '/')
    (noUp : ".." ∉ Path.split name.toList) : Descends count (path.join name).text.toList := by
  rcases Path.toList_join_of_relative relative with ⟨isOpen, same⟩ | same
  · rw [same]
    exact descends.more isOpen noUp
  · rw [same]
    exact descends.slash noUp

/-- A text is made of slashes, or a last name stands between the slashes at its end and what is
in front of it. -/
theorem last_name_cases (text : List Char) :
    (∃ count, text = List.replicate count '/') ∨
      ∃ front name count, text = front ++ (name ++ List.replicate count '/') ∧
        Path.IsOpen front ∧ name ≠ [] ∧ '/' ∉ name := by
  induction text using List.reverseRecOn with
  | nil => exact .inl ⟨0, rfl⟩
  | append_singleton text last inductionHypothesis =>
    by_cases slash : last = '/'
    · subst slash
      rcases inductionHypothesis with ⟨count, rfl⟩ | ⟨front, name, count, rfl, isOpen, named⟩
      · exact .inl ⟨count + 1, List.replicate_succ'.symm⟩
      · refine .inr ⟨front, name, count + 1, ?_, isOpen, named⟩
        rw [List.replicate_succ', List.append_assoc, List.append_assoc]
    · have alone : '/' ∉ [last] := by simpa using Ne.symm slash
      rcases inductionHypothesis with ⟨count, rfl⟩ | ⟨front, name, count, rfl, isOpen, named⟩
      · refine .inr ⟨List.replicate count '/', [last], 0, rfl, ?_, List.cons_ne_nil _ _, alone⟩
        cases count with
        | zero => exact .inl rfl
        | succ count => exact .inr ⟨List.replicate count '/', List.replicate_succ'⟩
      · cases count with
        | zero =>
          refine .inr ⟨front, name ++ [last], 0, by simp, isOpen, by simp, ?_⟩
          rw [List.mem_append, not_or]
          exact ⟨named.2, alone⟩
        | succ count =>
          refine .inr ⟨front ++ (name ++ List.replicate (count + 1) '/'), [last], 0, rfl,
            .inr ⟨front ++ (name ++ List.replicate count '/'), ?_⟩, List.cons_ne_nil _ _, alone⟩
          rw [List.replicate_succ', List.append_assoc, List.append_assoc]

theorem le_foldr_max {number : Nat} :
    ∀ {numbers : List Nat}, number ∈ numbers → number ≤ numbers.foldr max 0
  | first :: rest, member => by
    rw [List.foldr_cons]
    rcases List.mem_cons.mp member with rfl | later
    · exact Nat.le_max_left _ _
    · exact Nat.le_trans (le_foldr_max later) (Nat.le_max_right _ _)

/-- A file is at least as deep as the steps down at the end of a path to it. -/
theorem Descends.le_depth {disk : Disk} {path : Path} {count : Nat}
    (descends : Descends count path.text.toList) (file : disk.isFile path = true) :
    count ≤ disk.depth := by
  obtain ⟨front, back, written, isOpen, noUp, enough⟩ := descends
  obtain ⟨place, content, located, stands⟩ := locate_of_isFile file
  obtain ⟨pieces, apart⟩ := isOpen.split
  have followed : disk.follow (if path.isAbsolute then [] else disk.home)
      (pieces ++ Path.split back) = .ok place := by
    unfold locate at located
    split at located
    · cases located
    · rw [← apart, ← written]
      exact located
  obtain ⟨between, -, there⟩ := follow_append followed
  have deep := length_of_follow noUp there
  have reached : place.length ≤ disk.depth :=
    le_foldr_max (List.mem_map.mpr ⟨_, mem_of_stands_file stands, rfl⟩)
  omega

end Disk

end Declarations
