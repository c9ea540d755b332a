/-
This file proves how places and their paths belong together. The path of a place has the
names of the place and leads back to it where directories lead there, and a path below
another one leads below it. On a disk where everything stands in a directory, the path of
a place leads to a file exactly where a file stands at the place.
-/

import Declarations.Proofs.Disk.Paths

namespace Declarations

open Declarations.Path (IsName)

/-! ### The text of a place -/

namespace Place

variable {place rest : Place} {name : String}

/-- The names of a place, each behind a slash. -/
def slashed (place : Place) : List Char :=
  place.flatMap fun name => '/' :: name.toList

theorem eq_of_toList {path other : Path} (same : path.text.toList = other.text.toList) :
    path = other :=
  congrArg Path.mk (String.toList_injective same)

theorem slashed_append (place rest : Place) :
    slashed (place ++ rest) = slashed place ++ slashed rest :=
  List.flatMap_append

theorem slashed_concat (place : Place) (name : String) :
    slashed (place ++ [name]) = slashed place ++ '/' :: name.toList := by
  rw [slashed_append]
  exact congrArg _ (List.flatMap_singleton _ _)

theorem slashed_eq_cons (filled : rest ≠ []) :
    slashed rest = '/' :: ("/".intercalate rest).toList := by
  induction rest with
  | nil => exact absurd rfl filled
  | cons name more inductionHypothesis =>
    cases more with
    | nil => simp [slashed]
    | cons next more =>
      have behind := inductionHypothesis (List.cons_ne_nil _ _)
      have first : slashed (name :: next :: more) =
          '/' :: (name.toList ++ slashed (next :: more)) := rfl
      rw [first, behind, String.intercalate_cons_cons]
      simp

theorem toList_path_of_ne_nil (filled : place ≠ []) : place.path.text.toList = slashed place := by
  rw [slashed_eq_cons filled, path, String.toList_append]
  rfl

theorem toList_path_concat (place : Place) (name : String) :
    (path (place ++ [name])).text.toList = slashed place ++ '/' :: name.toList := by
  rw [toList_path_of_ne_nil (by simp), slashed_concat]

theorem split_slashed (isName : ∀ name ∈ place, IsName name) :
    Path.split (slashed place) = "" :: place := by
  induction place using List.reverseRecOn with
  | nil => rfl
  | append_singleton place name inductionHypothesis =>
    rw [List.forall_mem_append] at isName
    rw [slashed_concat, Path.split_append_slash, inductionHypothesis isName.1,
      Path.split_of_not_mem (isName.2 name List.mem_cons_self).plain, String.ofList_toList]
    rfl

theorem names_path (isName : ∀ name ∈ place, IsName name) : place.path.names = place := by
  by_cases empty : place = []
  · subst empty
    rfl
  · have all : place.path.names =
        (Path.split place.path.text.toList).filter fun name => name != "" && name != "." := rfl
    rw [all, toList_path_of_ne_nil empty, split_slashed isName, List.filter_cons,
      if_neg (by decide)]
    refine List.filter_eq_self.mpr fun name member => ?_
    rw [bne_iff_ne.mpr (isName name member).nonempty, bne_iff_ne.mpr (isName name member).notHere]
    rfl

theorem isAbsolute_path (place : Place) : place.path.isAbsolute = true := by
  unfold Path.isAbsolute path
  rw [String.toList_append]
  rfl

theorem length_components_path (isName : ∀ name ∈ place, IsName name) :
    place.path.components.length = place.length + 1 := by
  unfold Path.components
  dsimp only
  rw [if_pos (isAbsolute_path place), names_path isName, List.length_append, Nat.add_comm]
  rfl

/-- The path of a place ends with the last name of the place. -/
theorem toList_path_ends (place : Place) (name : String) :
    (path (place ++ [name])).text.toList =
      (slashed place ++ ['/']) ++ (name.toList ++ List.replicate 0 '/') := by
  rw [toList_path_concat, List.replicate_zero, List.append_nil, List.append_assoc]
  rfl

theorem fileName?_path (place : Place) (isName : IsName name) :
    (path (place ++ [name])).fileName? = some name :=
  Path.fileName?_of_toList (.inr ⟨_, rfl⟩) isName (toList_path_ends place name)

theorem stem?_path (place : Place) (isName : IsName name) :
    (path (place ++ [name])).stem? = some (Path.splitName name).1 := by
  unfold Path.stem?
  rw [fileName?_path place isName]
  rfl

theorem extension?_path (place : Place) (isName : IsName name) :
    (path (place ++ [name])).extension? = (Path.splitName name).2 := by
  unfold Path.extension?
  rw [fileName?_path place isName]
  rfl

theorem withExtension_path (place : Place) (isName : IsName name) (extension : String) :
    (path (place ++ [name])).withExtension extension =
      path (place ++ [(Path.splitName name).1 ++ "." ++ extension]) := by
  rw [Path.withExtension_of_toList (.inr ⟨_, rfl⟩) isName (toList_path_ends place name)]
  refine eq_of_toList ?_
  rw [toList_path_concat]
  simp

theorem trimBack_slashed (isName : ∀ name ∈ place, IsName name) :
    Path.trimBack ('/' :: (slashed place).reverse) = place.path.text.toList.reverse := by
  rcases List.eq_nil_or_concat place with rfl | ⟨before, name, rfl⟩
  · exact Path.trimBack.eq_1
  · rw [List.concat_eq_append] at isName ⊢
    have last : IsName name := isName name (by simp)
    have filled : (slashed (before ++ [name])).reverse ≠ [] := by
      rw [slashed_concat]
      simp
    have slash := Path.trimBack_slashes filled 1
    rw [List.replicate_one, List.singleton_append] at slash
    rw [slash, toList_path_concat, slashed_concat, List.reverse_append, List.reverse_cons,
      List.append_assoc, Path.trimBack_name last]

theorem parent?_path (isName : ∀ other ∈ place ++ [name], IsName other) :
    (path (place ++ [name])).parent? = some place.path := by
  rw [List.forall_mem_append] at isName
  have last : IsName name := isName.2 name List.mem_cons_self
  have trimmed : Path.trimBack (path (place ++ [name])).text.toList.reverse =
      name.toList.reverse ++ '/' :: (slashed place).reverse := by
    rw [toList_path_concat, List.reverse_append, List.reverse_cons, List.append_assoc,
      Path.trimBack_name last]
    rfl
  have plain : ∀ character ∈ name.toList.reverse, (decide (character ≠ '/')) = true := by
    intro character member
    refine decide_eq_true ?_
    rintro rfl
    exact last.plain (List.mem_reverse.mp member)
  have dropped : (name.toList.reverse ++ '/' :: (slashed place).reverse).dropWhile (· ≠ '/') =
      '/' :: (slashed place).reverse := by
    rw [List.dropWhile_append_of_pos plain]
    rfl
  unfold Path.parent?
  rw [trimmed]
  split
  next none => simp at none
  next root =>
    have length := congrArg List.length root
    have := List.length_pos_iff.mpr last.toList_ne_nil
    simp at length
    omega
  next =>
    rw [dropped, trimBack_slashed isName.1, List.reverse_reverse, String.ofList_toList]

/-- A path that is written below the path of a place is that of a place below it. -/
theorem join_path (isName : ∀ name ∈ place, IsName name) {below : String}
    (restPlain : ∀ name ∈ rest, IsName name) (same : '/' :: below.toList = slashed rest) :
    place.path.join below = path (place ++ rest) := by
  have filled : rest ≠ [] := by
    rintro rfl
    cases same
  have relative : ¬ (below.toList.head? == some '/') = true := by
    cases rest with
    | nil => exact absurd rfl filled
    | cons first more =>
      have firstName : IsName first := restPlain first List.mem_cons_self
      have tail : below.toList = first.toList ++ slashed more := (List.cons.inj same).2
      obtain ⟨initial, others, written⟩ := List.exists_cons_of_ne_nil firstName.toList_ne_nil
      intro absolute
      rw [tail, written, List.cons_append, List.head?_cons, beq_iff_eq, Option.some_inj] at absolute
      exact firstName.plain (written ▸ absolute ▸ List.mem_cons_self)
  refine eq_of_toList ?_
  rw [toList_path_of_ne_nil (by simp [filled] : place ++ rest ≠ []), slashed_append, ← same]
  unfold Path.join
  rw [if_neg relative]
  rcases List.eq_nil_or_concat place with rfl | ⟨before, last, rfl⟩
  · rw [if_pos (by decide), String.toList_append]
    rfl
  · rw [List.concat_eq_append] at isName ⊢
    have lastName : IsName last := isName last (by simp)
    have text := toList_path_concat before last
    have notEmpty : (path (before ++ [last])).text.isEmpty = false := by
      rw [← Bool.not_eq_true, String.isEmpty_iff, ← String.toList_eq_nil_iff, text]
      simp
    have notOpen : ((path (before ++ [last])).text.toList.getLast? == some '/') = false := by
      obtain ⟨others, final, written⟩ :=
        (List.eq_nil_or_concat last.toList).resolve_left lastName.toList_ne_nil
      rw [List.concat_eq_append] at written
      rw [text, written, ← List.cons_append, ← List.append_assoc, List.getLast?_concat]
      refine beq_false_of_ne fun slash => lastName.plain ?_
      rw [written, ← Option.some.inj slash]
      exact List.mem_append_right _ List.mem_cons_self
    rw [notEmpty, notOpen, if_neg (by decide), String.toList_append, String.toList_append, text,
      slashed_concat]
    simp

theorem join_path_name (isName : ∀ other ∈ place, IsName other) (last : IsName name) :
    place.path.join name = path (place ++ [name]) :=
  join_path isName (by simpa using last) (List.flatMap_singleton _ _).symm

end Place

/-! ### Where paths lead -/

namespace Disk

variable {disk : Disk} {place start final : Place} {names : List String} {path : Path}

theorem filled_of_locate (located : disk.locate path = .ok place) : path.text.toList ≠ [] := by
  unfold locate at located
  split at located
  · cases located
  next filled =>
    exact fun empty => filled (String.isEmpty_iff.mpr (String.toList_eq_nil_iff.mp empty))

theorem locate_eq (filled : path.text.toList ≠ []) :
    disk.locate path =
      disk.follow (if path.isAbsolute then [] else disk.home) (Path.split path.text.toList) := by
  unfold locate
  rw [if_neg fun empty => filled (String.toList_eq_nil_iff.mpr (String.isEmpty_iff.mp empty))]
  rfl

theorem isAbsolute_of_append {other : Path} {more : List Char} (filled : path.text.toList ≠ [])
    (text : other.text.toList = path.text.toList ++ more) :
    other.isAbsolute = path.isAbsolute := by
  obtain ⟨first, rest, written⟩ := List.exists_cons_of_ne_nil filled
  unfold Path.isAbsolute
  rw [text, written]
  rfl

/-- Names lead down, through directories. -/
theorem follow_names_iff (isName : ∀ name ∈ names, IsName name) :
    disk.follow start names = .ok final ↔
      final = start ++ names ∧
        ∀ count < names.length, disk.entry? (start ++ names.take count) = some .directory := by
  induction names generalizing start with
  | nil =>
    rw [List.append_nil]
    exact ⟨fun same => ⟨(Except.ok.inj same).symm, nofun⟩, fun same => by rw [same.1]; rfl⟩
  | cons name rest inductionHypothesis =>
    obtain ⟨first, more⟩ := List.forall_mem_cons.mp isName
    have down : advance start name = start ++ [name] := by
      rw [advance, if_neg (not_or.mpr ⟨first.nonempty, first.notHere⟩), if_neg first.notUp]
    rw [follow_cons_iff, down, inductionHypothesis more, List.append_assoc, List.singleton_append]
    constructor
    · rintro ⟨directory, rfl, further⟩
      refine ⟨rfl, fun count within => ?_⟩
      cases count with
      | zero => rwa [List.take_zero, List.append_nil]
      | succ count =>
        have deeper := further count (Nat.lt_of_succ_lt_succ within)
        rwa [List.append_assoc, List.singleton_append] at deeper
    · rintro ⟨rfl, directories⟩
      refine ⟨?_, rfl, fun count within => ?_⟩
      · have here := directories 0 (Nat.zero_lt_succ _)
        rwa [List.take_zero, List.append_nil] at here
      · rw [List.append_assoc, List.singleton_append]
        exact directories (count + 1) (Nat.succ_lt_succ within)

theorem locate_path_iff (named : ∀ name ∈ place, IsName name)
    (filled : place ≠ []) :
    disk.locate place.path = .ok final ↔
      final = place ∧ ∀ count < place.length, disk.entry? (place.take count) = some .directory := by
  have text := Place.toList_path_of_ne_nil filled
  have written : place.path.text.toList ≠ [] := by
    rw [text, Place.slashed_eq_cons filled]
    exact List.cons_ne_nil _ _
  rw [locate_eq written, if_pos (Place.isAbsolute_path place), text, Place.split_slashed named,
    follow_cons_iff]
  have stays : advance [] "" = [] := rfl
  rw [stays, follow_names_iff named, List.nil_append]
  exact and_iff_right rfl

/-- Whether everything on a disk has a name and stands in a directory, each at a place of its
own. -/
structure IsTree (disk : Disk) : Prop where
  distinct : (disk.entries.map (·.1)).Nodup
  inside : ∀ stands ∈ disk.entries, stands.1 ≠ [] ∧ disk.entry? stands.1.dropLast = some .directory
  named : ∀ stands ∈ disk.entries, ∀ name ∈ stands.1, IsName name

namespace IsTree

theorem isName (tree : disk.IsTree) {entry : DiskEntry} (stands : disk.entry? place = some entry) :
    ∀ name ∈ place, IsName name := by
  by_cases empty : place = []
  · subst empty
    exact nofun
  · exact tree.named _ (mem_of_stands stands empty)

theorem stands_of_mem (tree : disk.IsTree) {entry : DiskEntry}
    (member : (place, entry) ∈ disk.entries) :
    disk.entry? place = some entry := by
  have filled : place.isEmpty = false := by simpa using (tree.inside _ member).1
  unfold entry?
  rw [filled, if_neg Bool.false_ne_true, List.lookup_eq_some_iff]
  obtain ⟨before, behind, entries⟩ := List.append_of_mem member
  refine ⟨before, behind, entries, fun other earlier => ?_⟩
  have apart := tree.distinct
  rw [entries, List.map_append, List.map_cons, List.nodup_append] at apart
  refine bne_iff_ne.mpr fun same => ?_
  exact apart.2.2 other.1 (List.mem_map_of_mem earlier) place List.mem_cons_self same.symm

/-- Directories lead to whatever stands on the disk. -/
theorem directory_above (tree : disk.IsTree) {rest : Place} {entry : DiskEntry}
    (stands : disk.entry? (place ++ rest) = some entry) (below : rest ≠ []) :
    disk.entry? place = some .directory := by
  induction rest using List.reverseRecOn generalizing entry with
  | nil => exact absurd rfl below
  | append_singleton rest name inductionHypothesis =>
    have above := (tree.inside _ (mem_of_stands stands (by simp))).2
    rw [← List.append_assoc, List.dropLast_concat] at above
    by_cases last : rest = []
    · rwa [last, List.append_nil] at above
    · exact inductionHypothesis above last

/-- The path of a place leads to a file where a file stands at the place. -/
theorem isFile_path_iff (tree : disk.IsTree) (named : ∀ name ∈ place, IsName name) :
    disk.isFile place.path = true ↔ ∃ content, disk.entry? place = some (.file content) := by
  by_cases empty : place = []
  · subst empty
    have root : disk.isFile (Place.path []) = false := rfl
    rw [root]
    exact ⟨nofun, fun ⟨_, stands⟩ => nomatch stands⟩
  constructor
  · intro file
    obtain ⟨other, content, located, stands⟩ := locate_of_isFile file
    obtain ⟨rfl, -⟩ := (locate_path_iff named empty).mp located
    exact ⟨content, stands⟩
  · rintro ⟨content, stands⟩
    have located : disk.locate place.path = .ok place := by
      refine (locate_path_iff named empty).mpr ⟨rfl, fun count within => ?_⟩
      rw [← List.take_append_drop count place] at stands
      exact tree.directory_above stands (by simpa using within)
    unfold isFile find
    rw [located]
    simp only [bind, Except.bind, stands]
    rfl

end IsTree

/-! ### Paths below a path -/

/-- What a path leads to has the path of the place as its absolute path. -/
theorem absolute_of_locate {entry : DiskEntry} (located : disk.locate path = .ok place)
    (stands : disk.entry? place = some entry) : disk.absolute path = place.path := by
  unfold absolute canonical
  rw [located]
  simp only [bind, Except.bind, stands]
  rfl

theorem follow_concat {steps : List String} {step : String}
    (followed : disk.follow start steps = .ok place)
    (directory : disk.entry? place = some .directory) :
    disk.follow start (steps ++ [step]) = .ok (advance place step) := by
  induction steps generalizing start with
  | nil =>
    cases followed
    exact follow_cons_iff.mpr ⟨directory, rfl⟩
  | cons first rest inductionHypothesis =>
    obtain ⟨here, further⟩ := follow_cons_iff.mp followed
    exact follow_cons_iff.mpr ⟨here, inductionHypothesis further⟩

/-- A name below the path of a directory leads below the directory. -/
theorem locate_join {name : String} (located : disk.locate path = .ok place)
    (directory : disk.entry? place = some .directory) (isName : IsName name) :
    disk.locate (path.join name) = .ok (place ++ [name]) := by
  have down : advance place name = place ++ [name] := by
    rw [advance, if_neg (not_or.mpr ⟨isName.nonempty, isName.notHere⟩), if_neg isName.notUp]
  have relative : name.toList.head? ≠ some '/' :=
    fun absolute => isName.plain (List.mem_of_mem_head? absolute)
  have filled := filled_of_locate located
  have followed := located
  rw [locate_eq filled] at followed
  have named : Path.split name.toList = [name] := by
    rw [Path.split_of_not_mem isName.plain, String.ofList_toList]
  rcases Path.toList_join_of_relative relative with ⟨isOpen, text⟩ | text
  · obtain ⟨before, slash⟩ := isOpen.resolve_left filled
    rw [slash, Path.split_append_slash] at followed
    obtain ⟨between, here, there⟩ := follow_append followed
    have same : place = between := (Except.ok.inj (follow_cons_iff.mp there).2).symm
    rw [← same] at here
    rw [locate_eq (by rw [text]; exact List.append_ne_nil_of_left_ne_nil filled _),
      isAbsolute_of_append filled text, text, slash, List.append_assoc, List.singleton_append,
      Path.split_append_slash, named, follow_concat here directory, down]
  · rw [locate_eq (by rw [text]; exact List.append_ne_nil_of_left_ne_nil filled _),
      isAbsolute_of_append filled text, text, Path.split_append_slash, named,
      follow_concat followed directory, down]

/-- Names below the path of a directory lead to what stands there. -/
theorem IsTree.locate_foldl_join (tree : disk.IsTree) {entry : DiskEntry}
    (located : disk.locate path = .ok place) (directory : disk.entry? place = some .directory)
    (stands : disk.entry? (place ++ names) = some entry) :
    disk.locate (names.foldl Path.join path) = .ok (place ++ names) := by
  induction names generalizing path place with
  | nil => rwa [List.append_nil]
  | cons name rest inductionHypothesis =>
    have down : place ++ name :: rest = (place ++ [name]) ++ rest :=
      (List.append_assoc place [name] rest).symm
    have isName : IsName name := tree.isName stands name (by simp)
    have next := locate_join located directory isName
    rw [down] at stands ⊢
    rw [List.foldl_cons]
    by_cases last : rest = []
    · rwa [last, List.append_nil]
    · exact inductionHypothesis next (tree.directory_above stands last) stands

end Disk

end Declarations
