/-
This file proves what a relative name adds to a path. The names of the joined path are those of
the path and then those of the name, and where the name ends in a name nothing but these decides
what the joined path leads to. So paths that name one place in the same way are alike as the
start of a search.
-/

import Declarations.Proofs.Disk.Frames
import Mathlib.Data.List.Basic

namespace Declarations

open Declarations.Path (IsName)

/-! ### Names of joined paths -/

namespace Path

variable {path other : Path} {name : String}

/-- Whether a text is written behind a path, and not in place of it. -/
def IsRelative (name : String) : Prop :=
  name.toList.head? ≠ some '/'

theorem isRelative_iff_of_append {more : List Char} {longer : String} (filled : name.toList ≠ [])
    (written : longer.toList = name.toList ++ more) : IsRelative longer ↔ IsRelative name := by
  obtain ⟨first, rest, same⟩ := List.exists_cons_of_ne_nil filled
  unfold IsRelative
  rw [written, same]
  rfl

/-- What a path puts in front of relative names. -/
theorem exists_front (path : Path) :
    ∃ front, IsOpen front ∧ (front = path.text.toList ∨ front = path.text.toList ++ ['/']) ∧
      (path.text.toList = [] → front = []) ∧
        ∀ name, IsRelative name → (path.join name).text.toList = front ++ name.toList := by
  by_cases ends : (path.text.isEmpty || path.text.toList.getLast? == some '/') = true
  · refine ⟨path.text.toList, ?_, .inl rfl, id, fun name relative => ?_⟩
    · rw [Bool.or_eq_true] at ends
      rcases ends with empty | slash
      · exact .inl (by rw [String.isEmpty_iff.mp empty]; rfl)
      · obtain ⟨before, same⟩ := List.getLast?_eq_some_iff.mp (eq_of_beq slash)
        exact .inr ⟨before, same⟩
    · unfold join
      rw [if_neg (fun absolute => relative (eq_of_beq absolute)), if_pos ends]
      exact String.toList_append
  · refine ⟨path.text.toList ++ ['/'], .inr ⟨_, rfl⟩, .inr rfl, fun empty => ?_,
      fun name relative => ?_⟩
    · rw [String.toList_eq_nil_iff.mp empty] at ends
      exact absurd rfl ends
    · unfold join
      rw [if_neg (fun absolute => relative (eq_of_beq absolute)), if_neg ends]
      simp

/-- Names may be joined with each other first. -/
theorem join_join (filled : name.toList ≠ []) (relative : IsRelative name) {last : String}
    (lastRelative : IsRelative last) :
    (path.join name).join last = path.join ((Path.mk name).join last).text := by
  obtain ⟨front, -, -, -, join⟩ := exists_front path
  have ends : ((path.join name).text.isEmpty || (path.join name).text.toList.getLast? == some '/') =
      (name.isEmpty || name.toList.getLast? == some '/') := by
    have joinedFilled : front ++ name.toList ≠ [] := List.append_ne_nil_of_right_ne_nil _ filled
    have notEmpty {text : String} (filled : text.toList ≠ []) : text.isEmpty = false :=
      Bool.eq_false_iff.mpr fun empty =>
        filled (String.toList_eq_nil_iff.mpr (String.isEmpty_iff.mp empty))
    rw [notEmpty filled, notEmpty (by rwa [join name relative]), join name relative,
      List.getLast?_append_of_ne_nil _ filled]
  have apart (path : Path) : path.join last =
      if path.text.isEmpty || path.text.toList.getLast? == some '/' then ⟨path.text ++ last⟩
      else ⟨path.text ++ "/" ++ last⟩ := by
    rw [Path.join, if_neg (fun absolute => lastRelative (eq_of_beq absolute))]
  refine Place.eq_of_toList ?_
  rw [apart, apart, ends]
  split
  · rw [join _ ((isRelative_iff_of_append filled String.toList_append).mpr relative),
      String.toList_append, String.toList_append, join name relative, List.append_assoc]
  · have written : (name ++ "/" ++ last).toList = name.toList ++ '/' :: last.toList := by simp
    rw [join _ ((isRelative_iff_of_append filled written).mpr relative), written]
    simp [join name relative]

theorem names_eq (path : Path) :
    path.names = (split path.text.toList).filter fun name => name != "" && name != "." :=
  rfl

theorem names_join (relative : IsRelative name) :
    (path.join name).names = path.names ++ (Path.mk name).names := by
  obtain ⟨front, isOpen, written, -, join⟩ := exists_front path
  rw [names_eq, names_eq, names_eq, join name relative]
  rcases written with rfl | rfl
  · rcases isOpen with empty | ⟨before, slash⟩
    · rw [empty]
      rfl
    · rw [slash, List.append_assoc, List.singleton_append, split_append_slash, split_append_slash,
        List.filter_append, List.filter_append]
      simp [split]
  · rw [List.append_assoc, List.singleton_append, split_append_slash, List.filter_append]

theorem isAbsolute_join (relative : IsRelative name) :
    (path.join name).isAbsolute = path.isAbsolute := by
  obtain ⟨front, -, written, stays, join⟩ := exists_front path
  by_cases empty : path.text.toList = []
  · have plain : (name.toList.head? == some '/') = false := beq_false_of_ne relative
    rw [isAbsolute, isAbsolute, join name relative, stays empty, empty, List.nil_append, plain]
    rfl
  · have longer : (path.join name).text.toList =
        path.text.toList ++ (front.drop path.text.toList.length ++ name.toList) := by
      rw [join name relative, ← List.append_assoc]
      rcases written with rfl | rfl <;> simp
    exact Disk.isAbsolute_of_append empty longer

/-- The pieces of a text between slashes have none. -/
theorem plain_of_mem_split {text : List Char} {piece : String} (member : piece ∈ split text) :
    '/' ∉ piece.toList := by
  by_cases slash : '/' ∈ text
  · obtain ⟨front, back, rfl, plain⟩ := List.eq_append_cons_of_mem slash
    rw [split_append_slash, split_of_not_mem plain, List.mem_append, List.mem_singleton] at member
    rcases member with rfl | later
    · rwa [String.toList_ofList]
    · exact plain_of_mem_split later
  · rw [split_of_not_mem slash, List.mem_singleton] at member
    rwa [member, String.toList_ofList]
termination_by text.length

/-- A name of a path is not one that only starts it. -/
theorem ne_start_of_mem_names (member : name ∈ path.names) :
    (name != "/" && name != ".") = true := by
  obtain ⟨among, kept⟩ := List.mem_filter.mp member
  rw [Bool.and_eq_true] at kept ⊢
  refine ⟨bne_iff_ne.mpr ?_, kept.2⟩
  rintro rfl
  exact plain_of_mem_split among List.mem_cons_self

theorem components_cases (path : Path) :
    ∃ start, path.components = start ++ path.names ∧
      (path.isAbsolute = true ∧ start = ["/"] ∨
        path.isAbsolute = false ∧ (start = ["."] ∨ start = [])) := by
  unfold components
  cases path.isAbsolute with
  | true => exact ⟨_, rfl, .inl ⟨rfl, rfl⟩⟩
  | false =>
    dsimp only
    rw [if_neg Bool.false_ne_true]
    split
    · exact ⟨_, rfl, .inr ⟨rfl, .inl rfl⟩⟩
    · exact ⟨_, rfl, .inr ⟨rfl, .inr rfl⟩⟩

theorem names_of_components (path : Path) :
    path.names = path.components.filter fun name => name != "/" && name != "." := by
  obtain ⟨start, written, ⟨-, rfl⟩ | ⟨-, rfl | rfl⟩⟩ := components_cases path
  all_goals
    rw [written, List.filter_append,
      List.filter_eq_self.mpr fun name member => ne_start_of_mem_names member]
    rfl

theorem isAbsolute_of_components (path : Path) :
    path.isAbsolute = (path.components.head? == some "/") := by
  obtain ⟨start, written, ⟨absolute, rfl⟩ | ⟨relative, rfl | rfl⟩⟩ := components_cases path
  · rw [written, absolute]
    rfl
  · rw [written, relative]
    rfl
  · rw [written, relative, List.nil_append]
    refine (beq_false_of_ne fun first => ?_).symm
    exact absurd (ne_start_of_mem_names (List.mem_of_mem_head? first)) (by decide)

/-- Paths that name one place in the same way start alike and have the same names. -/
theorem names_of_same (same : path.same other = true) :
    path.isAbsolute = other.isAbsolute ∧ path.names = other.names := by
  have components : path.components = other.components := eq_of_beq same
  rw [isAbsolute_of_components, names_of_components, components, ← isAbsolute_of_components,
    ← names_of_components]
  exact ⟨rfl, rfl⟩

end Path

/-! ### Where joined paths lead -/

namespace Disk

variable {disk : Disk} {path other : Path} {name : String}

/-- Steps that stay make no difference in front of a name, which needs a directory itself. -/
theorem follow_filter (steps : List String) (place : Place) (name : String) :
    disk.follow place (steps ++ [name]) =
      disk.follow place ((steps.filter fun step => step != "" && step != ".") ++ [name]) := by
  induction steps generalizing place with
  | nil => rfl
  | cons step rest inductionHypothesis =>
    by_cases stays : step = "" ∨ step = "."
    · have dropped : ¬ (step != "" && step != ".") = true := by
        rcases stays with rfl | rfl <;> decide
      rw [List.filter_cons, if_neg dropped, ← inductionHypothesis, List.cons_append, follow]
      cases stands : disk.entry? place with
      | none => cases rest <;> simp [follow, stands]
      | some entry =>
        cases entry with
        | directory => rw [if_pos stays]
        | file content => cases rest <;> simp [follow, stands]
    · have kept : (step != "" && step != ".") = true := by
        simpa [not_or] using stays
      rw [List.filter_cons, if_pos kept, List.cons_append, List.cons_append, follow, follow]
      simp only [inductionHypothesis]

/-- Whether a text is read as a path that ends in a name. -/
def EndsInName (name : String) : Prop :=
  ∃ front last, name.toList = front ++ last.toList ∧ Path.IsOpen front ∧ IsName last

/-- A path that ends in a name leads where its names lead. -/
theorem locate_of_endsInName (ends : EndsInName path.text) :
    disk.locate path = disk.follow (if path.isAbsolute then [] else disk.home) path.names := by
  obtain ⟨front, last, written, isOpen, isName⟩ := ends
  obtain ⟨pieces, apart⟩ := isOpen.split
  have kept : (last != "" && last != ".") = true := by
    rw [bne_iff_ne.mpr isName.nonempty, bne_iff_ne.mpr isName.notHere, Bool.true_and]
  have filled : path.text.toList ≠ [] := by
    rw [written]
    exact List.append_ne_nil_of_right_ne_nil _ isName.toList_ne_nil
  rw [locate_eq filled, Path.names_eq, written, apart, split_of_isName isName, follow_filter,
    List.filter_append, List.filter_cons, if_pos kept]
  rfl

/-- Paths that name one place in the same way are alike in front of a relative name. -/
theorem locate_join_of_same (same : path.same other = true) (relative : Path.IsRelative name)
    (ends : EndsInName name) : disk.locate (path.join name) = disk.locate (other.join name) := by
  have joined (path : Path) : EndsInName (path.join name).text := by
    obtain ⟨front, isOpen, -, -, join⟩ := Path.exists_front path
    obtain ⟨more, last, written, moreOpen, isName⟩ := ends
    refine ⟨front ++ more, last, ?_, isOpen.append moreOpen, isName⟩
    rw [join name relative, written, List.append_assoc]
  obtain ⟨start, names⟩ := Path.names_of_same same
  rw [locate_of_endsInName (joined path), locate_of_endsInName (joined other),
    Path.isAbsolute_join relative, Path.isAbsolute_join relative, Path.names_join relative,
    Path.names_join relative, start, names]

theorem isFile_join_of_same (same : path.same other = true) (relative : Path.IsRelative name)
    (ends : EndsInName name) : disk.isFile (path.join name) = disk.isFile (other.join name) := by
  unfold isFile find
  rw [locate_join_of_same same relative ends]

end Disk

end Declarations
