/-
This file proves which module a key leads to. Three orders meet in a search: the fronts of the
key, longest first, the roots, and the forms that the file of a module may take; each is searched
by a loop of its own, and the first of these decides before the second and the second before the
third. Duplicates among the roots make no difference. A name that starts with a dot is written as
an absolute path, so its file does not stand below any root.
-/

import Declarations.Proofs.Build.Searching
import Declarations.Proofs.Disk.Joining

namespace Declarations

open Declarations.Path (IsName IsRelative)
open Declarations.Disk (EndsInName)

/-! ### Fronts -/

namespace Dotted

/-- Whether a name is all of a key, or stands in front of one of its dots. -/
def IsFront (front key : String) : Prop :=
  front = key ∨ ∃ tail, key = below front tail

theorem IsFront.mem_iff {front key : String} :
    front ∈ key :: (fronts key).map (·.1) ↔ IsFront front key := by
  rw [List.mem_cons, List.mem_map]
  refine or_congr Iff.rfl ⟨?_, ?_⟩
  · rintro ⟨⟨front, rest⟩, member, rfl⟩
    exact eq_below_of_mem_fronts member
  · rintro ⟨tail, rfl⟩
    obtain ⟨rest, member⟩ := mem_fronts_below front tail
    exact ⟨_, member, rfl⟩

end Dotted

/-! ### Searching in order -/

/-- In a list that descends, the first value that is found is the greatest. -/
theorem findSome?_eq_some_iff_of_pairwise {α β : Type} {size : α → Nat} {search : α → Option β}
    {values : List α} (descending : values.Pairwise fun first second => size second < size first)
    {found : β} :
    values.findSome? search = some found ↔
      ∃ value ∈ values, search value = some found ∧
        ∀ other ∈ values, size value < size other → search other = none := by
  rw [List.findSome?_eq_some_iff]
  constructor
  · rintro ⟨before, value, after, rfl, here, none⟩
    refine ⟨value, by simp, here, fun other member greater => ?_⟩
    rcases List.mem_append.mp member with earlier | later
    · exact none other earlier
    · obtain ⟨-, behind, -⟩ := List.pairwise_append.mp descending
      rcases List.mem_cons.mp later with rfl | later
      · exact absurd greater (Nat.lt_irrefl _)
      · exact absurd greater
          (Nat.lt_asymm ((List.pairwise_cons.mp behind).1 other later))
  · rintro ⟨value, member, here, none⟩
    obtain ⟨before, after, rfl⟩ := List.append_of_mem member
    refine ⟨before, value, after, rfl, here, fun other earlier => ?_⟩
    exact none other (List.mem_append_left _ earlier)
      ((List.pairwise_append.mp descending).2.2 other earlier value List.mem_cons_self)

namespace ImportSearch

variable {disk : Disk} {root other path : Path} {roots : List Path} {key module : String}

/-! ### Roots -/

/-- A root that is the same as an earlier one is found where the earlier one is, so a search may
as well look below all. -/
theorem findSome?_ofRoots {α : Type} {search : Path → Option α}
    (alike : ∀ root other : Path, root.same other = true → (search other).isSome = true →
      (search root).isSome = true) (roots : List Path) :
    (ofRoots roots).roots.findSome? search = roots.findSome? search := by
  have general : ∀ (roots kept : List Path),
      (roots.foldl (fun kept root =>
        if kept.any fun other => other.same root then kept else kept ++ [root]) kept).findSome?
          search = (kept ++ roots).findSome? search := by
    intro roots
    induction roots with
    | nil => intro kept; rw [List.append_nil]; rfl
    | cons root rest inductionHypothesis =>
      intro kept
      rw [List.foldl_cons, inductionHypothesis]
      split
      next known =>
        obtain ⟨other, member, same⟩ := List.any_eq_true.mp known
        rw [List.findSome?_append, List.findSome?_append, List.findSome?_cons]
        cases here : search root with
        | none => rfl
        | some found =>
          obtain ⟨first, isFirst⟩ : ∃ first, kept.findSome? search = some first :=
            Option.isSome_iff_exists.mp (List.findSome?_isSome_iff.mpr
              ⟨other, member, alike other root same (by rw [here]; rfl)⟩)
          rw [isFirst]
          rfl
      next => rw [List.append_assoc, List.singleton_append]
  exact general roots []

/-! ### Files -/

/-- Whether a name starts with a dot or a slash, and so is written as an absolute path. -/
def IsOutside (module : String) : Prop :=
  module.toList.head? = some '.' ∨ module.toList.head? = some '/'

theorem isOutside_iff : IsOutside module ↔ ¬ IsRelative (relativePath module) := by
  unfold IsOutside IsRelative
  rw [not_not, toList_relativePath, steppedText]
  cases module.toList with
  | nil => simp
  | cons first rest =>
    simp only [List.head?_cons, List.map_cons, Option.some.injEq]
    split
    next dot => simp [dot]
    next noDot => simp [noDot]

/-- The path that a name leads to, without the slashes at its end. -/
def stemOf (module : String) : String :=
  String.ofList (Path.trimBack (relativePath module).toList.reverse).reverse

/-- The names below a root of the files that may hold a module: a source, a stub, and the file of a
package. -/
def filesOf (module : String) : List String :=
  [stemOf module ++ "." ++ "py", stemOf module ++ "." ++ "pyi",
    ((Path.mk (relativePath module)).join "__init__.py").text]

/-- The path that a name leads to ends in a name, maybe with slashes behind it. -/
theorem exists_last (filled : module ≠ "") (inside : ¬ IsOutside module) :
    ∃ before last count,
      (relativePath module).toList = before ++ (last.toList ++ List.replicate count '/') ∧
        Path.IsOpen before ∧ IsName last ∧ '.' ∉ last.toList := by
  have relative := not_not.mp (isOutside_iff.not.mp inside)
  rw [IsRelative, toList_relativePath] at relative
  rw [toList_relativePath]
  refine (steppedText_cases module).resolve_left fun ⟨count, slashes⟩ => ?_
  cases count with
  | zero =>
    exact filled (String.toList_eq_nil_iff.mp (List.map_eq_nil_iff.mp slashes))
  | succ count => exact relative (by rw [slashes]; rfl)

theorem toList_stemOf {before : List Char} {last : String} {count : Nat}
    (written : (relativePath module).toList =
      before ++ (last.toList ++ List.replicate count '/')) (isName : IsName last) :
    (stemOf module).toList = before ++ last.toList := by
  have more : last.toList.reverse ++ before.reverse ≠ [] :=
    List.append_ne_nil_of_left_ne_nil (by simpa using isName.toList_ne_nil) _
  rw [stemOf, String.toList_ofList, written, List.reverse_append, List.reverse_append,
    List.reverse_replicate, List.append_assoc, Path.trimBack_slashes more,
    Path.trimBack_name isName, List.reverse_append, List.reverse_reverse, List.reverse_reverse]

/-- Each of these names leads below the path it is joined to, and ends in a name. -/
theorem of_mem_filesOf (filled : module ≠ "") (inside : ¬ IsOutside module) {file : String}
    (member : file ∈ filesOf module) : IsRelative file ∧ EndsInName file := by
  have relative := not_not.mp (isOutside_iff.not.mp inside)
  obtain ⟨before, last, count, written, isOpen, isName, -⟩ := exists_last filled inside
  have stem := toList_stemOf written isName
  have stemFilled : (stemOf module).toList ≠ [] := by
    rw [stem]
    exact List.append_ne_nil_of_right_ne_nil _ isName.toList_ne_nil
  have path : (relativePath module).toList =
      (stemOf module).toList ++ List.replicate count '/' := by
    rw [stem, written, List.append_assoc]
  have extended {extension : String} (more : extension ≠ "") (plain : '/' ∉ extension.toList) :
      IsRelative (stemOf module ++ "." ++ extension) ∧
        EndsInName (stemOf module ++ "." ++ extension) := by
    constructor
    · have longer : (stemOf module ++ "." ++ extension).toList =
          (stemOf module).toList ++ '.' :: extension.toList := by simp
      rwa [Path.isRelative_iff_of_append stemFilled longer,
        ← Path.isRelative_iff_of_append stemFilled path]
    · exact ⟨before, last ++ "." ++ extension, by simp [stem], isOpen,
        Path.isName_extended isName.nonempty isName.plain more plain⟩
  simp only [filesOf, List.mem_cons, List.not_mem_nil, or_false] at member
  rcases member with rfl | rfl | rfl
  · exact extended (by decide) (by decide)
  · exact extended (by decide) (by decide)
  · obtain ⟨front, isOpen, text, -, join⟩ := Path.exists_front ⟨relativePath module⟩
    have joined := join "__init__.py" (by unfold IsRelative; decide)
    refine ⟨?_, front, "__init__.py", joined, isOpen, by decide⟩
    have pathFilled : (relativePath module).toList ≠ [] := by
      rw [path]
      exact List.append_ne_nil_of_left_ne_nil stemFilled _
    rcases text with rfl | rfl
    · exact (Path.isRelative_iff_of_append pathFilled joined).mpr relative
    · rw [List.append_assoc] at joined
      exact (Path.isRelative_iff_of_append pathFilled joined).mpr relative

/-- A name that starts with a part leads below each root. -/
theorem candidates_of_inside (filled : module ≠ "") (inside : ¬ IsOutside module) (root : Path) :
    candidates root module = (filesOf module).map root.join := by
  have relative := not_not.mp (isOutside_iff.not.mp inside)
  obtain ⟨before, last, count, written, isOpen, isName, noDot⟩ := exists_last filled inside
  have stem := toList_stemOf written isName
  have pathFilled : (relativePath module).toList ≠ [] := by
    rw [written]
    exact List.append_ne_nil_of_right_ne_nil _
      (List.append_ne_nil_of_left_ne_nil isName.toList_ne_nil _)
  obtain ⟨front, frontOpen, -, -, join⟩ := Path.exists_front root
  have extended {extension : String} (member : stemOf module ++ "." ++ extension ∈ filesOf module) :
      (root.join (relativePath module)).withExtension extension =
        root.join (stemOf module ++ "." ++ extension) := by
    refine Place.eq_of_toList ?_
    rw [Path.withExtension_of_toList (frontOpen.append isOpen) isName
      (by rw [join _ relative, written, List.append_assoc]), Path.splitName_of_not_mem noDot,
      join _ (of_mem_filesOf filled inside member).1]
    simp [stem]
  unfold candidates
  dsimp only
  rw [extended (by simp [filesOf]), extended (by simp [filesOf]),
    Path.join_join pathFilled relative (by unfold IsRelative; decide)]
  rfl

/-- A name that starts with a dot or a slash leads to one place, whatever the root. -/
theorem candidates_of_outside (outside : IsOutside module) (root : Path) :
    candidates root module = candidates ⟨""⟩ module := by
  have absolute : ((relativePath module).toList.head? == some '/') = true :=
    beq_iff_eq.mpr (not_not.mp (isOutside_iff.mp outside))
  unfold candidates Path.join
  rw [if_pos absolute, if_pos absolute]

theorem isOutside_front_iff {front : String} (isFront : Dotted.IsFront front key)
    (filled : front ≠ "") : IsOutside front ↔ IsOutside key := by
  rcases isFront with rfl | ⟨tail, rfl⟩
  · exact Iff.rfl
  · obtain ⟨first, rest, written⟩ :=
      List.exists_cons_of_ne_nil (mt String.toList_eq_nil_iff.mp filled)
    unfold IsOutside
    rw [Dotted.toList_below, written]
    rfl

/-- The files of a name that starts with a part stand below the root. -/
theorem below_of_mem_candidates (filled : module ≠ "") (inside : ¬ IsOutside module)
    (member : path ∈ candidates root module) :
    path.isAbsolute = root.isAbsolute ∧ root.names <+: path.names := by
  rw [candidates_of_inside filled inside] at member
  obtain ⟨file, among, rfl⟩ := List.mem_map.mp member
  have relative := (of_mem_filesOf filled inside among).1
  rw [Path.names_join relative]
  exact ⟨Path.isAbsolute_join relative, List.prefix_append _ _⟩

/-- Whether no two dots of a name stand beside each other, and none at its ends. -/
def IsStepped (name : String) : Prop :=
  "" ∉ Path.split (steppedText name)

theorem IsStepped.front {front : String} (stepped : IsStepped key)
    (isFront : Dotted.IsFront front key) : IsStepped front := by
  rcases isFront with rfl | ⟨tail, rfl⟩
  · exact stepped
  · unfold IsStepped at stepped ⊢
    rw [steppedText_below, Path.split_append_slash, List.mem_append, not_or] at stepped
    exact stepped.1

/-- The files that may hold a module with a plain name are written after it. -/
theorem filesOf_of_isStepped (filled : module ≠ "") (inside : ¬ IsOutside module)
    (stepped : IsStepped module) :
    filesOf module = [".py", ".pyi", "/__init__.py"].map (relativePath module ++ ·) := by
  obtain ⟨before, last, count, written, isOpen, isName, -⟩ := exists_last filled inside
  have none : count = 0 := by
    cases count with
    | zero => rfl
    | succ count =>
      obtain ⟨pieces, apart⟩ := isOpen.split
      refine absurd ?_ stepped
      rw [← toList_relativePath, written, apart, Path.split_append_slashes isName.plain,
        List.replicate_succ]
      simp
  subst none
  have stemText := toList_stemOf written isName
  rw [List.replicate_zero, List.append_nil] at written
  have stem : stemOf module = relativePath module :=
    String.toList_injective (stemText.trans written.symm)
  have slash : (relativePath module).toList.getLast? ≠ some '/' := by
    rw [written, List.getLast?_append_of_ne_nil _ isName.toList_ne_nil]
    exact fun ends => isName.plain (List.mem_of_getLast? ends)
  have join : ((Path.mk (relativePath module)).join "__init__.py").text =
      relativePath module ++ "/__init__.py" := by
    have ends : ¬ ((relativePath module).isEmpty ||
        (relativePath module).toList.getLast? == some '/') = true := by
      rw [Bool.or_eq_true, not_or]
      refine ⟨fun empty => ?_, fun same => slash (eq_of_beq same)⟩
      rw [String.isEmpty_iff.mp empty] at written
      exact isName.toList_ne_nil (List.append_eq_nil_iff.mp written.symm).2
    rw [Path.join, if_neg (by decide), if_neg ends, String.append_assoc]
    rfl
  rw [filesOf, stem, join, String.append_assoc, String.append_assoc]
  rfl

/-! ### Modules -/

/-- Whether a module of a name has a file below a root, or where its name leads by itself. -/
def HasFile (disk : Disk) (root : Path) (module : String) : Prop :=
  module ≠ "" ∧ ∃ path ∈ candidates root module, disk.isFile path = true

theorem isSome_fileAt?_iff (filled : module ≠ "") :
    (fileAt? disk (root.join (relativePath module))).isSome = true ↔ HasFile disk root module := by
  have found : fileAt? disk (root.join (relativePath module)) =
      (candidates root module).find? disk.isFile := rfl
  rw [found, List.find?_isSome, HasFile, and_iff_right filled]

/-- Roots that name one directory in the same way have the same modules. -/
theorem HasFile.of_same (same : root.same other = true) (has : HasFile disk other module) :
    HasFile disk root module := by
  obtain ⟨filled, path, member, isFile⟩ := has
  refine ⟨filled, ?_⟩
  by_cases outside : IsOutside module
  · rw [candidates_of_outside outside] at member ⊢
    exact ⟨path, member, isFile⟩
  · rw [candidates_of_inside filled outside] at member ⊢
    obtain ⟨file, among, rfl⟩ := List.mem_map.mp member
    obtain ⟨relative, ends⟩ := of_mem_filesOf filled outside among
    exact ⟨root.join file, List.mem_map_of_mem among,
      (Disk.isFile_join_of_same same relative ends).trans isFile⟩

/-- A module is looked for below each root, a duplicate or not. -/
theorem find?_ofRoots (filled : module ≠ "") :
    (ofRoots roots).find? disk module = roots.findSome? fun root =>
      (fileAt? disk (root.join (relativePath module))).map fun path => (path, root) := by
  have notEmpty : ¬ module.isEmpty = true := fun empty => filled (String.isEmpty_iff.mp empty)
  unfold find?
  rw [if_neg notEmpty]
  refine findSome?_ofRoots (fun root other same found => ?_) roots
  rw [Option.isSome_map, isSome_fileAt?_iff filled] at found ⊢
  exact found.of_same same

theorem find?_empty (search : ImportSearch) : search.find? disk "" = none :=
  rfl

/-- A module is found below the first root that has it, in the first of its forms there. -/
theorem find?_ofRoots_eq_some_iff :
    (ofRoots roots).find? disk module = some (path, root) ↔
      (∃ before after, roots = before ++ root :: after ∧
        ∀ other ∈ before, ¬ HasFile disk other module) ∧
      module ≠ "" ∧ (candidates root module).find? disk.isFile = some path := by
  by_cases filled : module = ""
  · subst filled
    rw [find?_empty]
    exact ⟨nofun, fun ⟨_, filled, _⟩ => absurd rfl filled⟩
  · rw [find?_ofRoots filled, List.findSome?_eq_some_iff]
    have missing {other : Path} : ((fileAt? disk (other.join (relativePath module))).map
        fun path => (path, other)) = none ↔ ¬ HasFile disk other module := by
      rw [← isSome_fileAt?_iff filled, Option.map_eq_none_iff, Bool.not_eq_true,
        Option.isSome_eq_false_iff, Option.isNone_iff_eq_none]
    simp only [missing]
    constructor
    · rintro ⟨before, first, after, rfl, here, none⟩
      obtain ⟨file, found, same⟩ := Option.map_eq_some_iff.mp here
      cases same
      exact ⟨⟨before, after, rfl, none⟩, filled, found⟩
    · rintro ⟨⟨before, after, rfl, none⟩, -, found⟩
      exact ⟨before, root, after, rfl, Option.map_eq_some_iff.mpr ⟨path, found, rfl⟩, none⟩

theorem find?_ofRoots_eq_none_iff :
    (ofRoots roots).find? disk module = none ↔ ∀ root ∈ roots, ¬ HasFile disk root module := by
  by_cases filled : module = ""
  · subst filled
    rw [find?_empty]
    exact iff_of_true rfl fun root member has => has.1 rfl
  · rw [find?_ofRoots filled, List.findSome?_eq_none_iff]
    refine forall₂_congr fun root _ => ?_
    rw [← isSome_fileAt?_iff filled, Option.map_eq_none_iff, Bool.not_eq_true,
      Option.isSome_eq_false_iff, Option.isNone_iff_eq_none]

/-- What a module that a key leads to is: of the fronts of the key that have a file the longest,
below the first root that has it, and there the first of its files. -/
structure IsFirst (disk : Disk) (roots : List Path) (key module : String) (path root : Path) :
    Prop where
  front : Dotted.IsFront module key
  longest : ∀ longer, Dotted.IsFront longer key → module.length < longer.length →
    ∀ other ∈ roots, ¬ HasFile disk other longer
  first : ∃ before after, roots = before ++ root :: after ∧
    ∀ other ∈ before, ¬ HasFile disk other module
  filled : module ≠ ""
  file : (candidates root module).find? disk.isFile = some path

theorem moduleOf?_eq_some_iff :
    (ofRoots roots).moduleOf? disk key = some (module, path, root) ↔
      isStandard key = false ∧ IsFirst disk roots key module path root := by
  unfold moduleOf?
  cases isStandard key with
  | true => simp
  | false =>
    rw [if_neg Bool.false_ne_true, and_iff_right rfl,
      findSome?_eq_some_iff_of_pairwise (Dotted.pairwise_length_fronts key)]
    simp only [Dotted.IsFront.mem_iff, Option.map_eq_some_iff, Option.map_eq_none_iff,
      find?_ofRoots_eq_none_iff]
    constructor
    · rintro ⟨module, front, ⟨⟨path, root⟩, found, same⟩, longest⟩
      cases same
      obtain ⟨first, filled, file⟩ := find?_ofRoots_eq_some_iff.mp found
      exact ⟨front, longest, first, filled, file⟩
    · rintro ⟨front, longest, first, filled, file⟩
      have found := find?_ofRoots_eq_some_iff.mpr ⟨first, filled, file⟩
      exact ⟨module, front, ⟨(path, root), found, rfl⟩, longest⟩

theorem moduleOf?_eq_none_iff :
    (ofRoots roots).moduleOf? disk key = none ↔
      isStandard key = true ∨
        ∀ front, Dotted.IsFront front key → ∀ root ∈ roots, ¬ HasFile disk root front := by
  unfold moduleOf?
  cases isStandard key with
  | true => simp
  | false =>
    rw [if_neg Bool.false_ne_true, List.findSome?_eq_none_iff]
    simp [← Dotted.IsFront.mem_iff, find?_ofRoots_eq_none_iff]

/-- A key leads to no module exactly where it lies in the standard library or no front of it has a
file for any root; else to the longest front that has one, for the first root, in the order of the
forms. Each form stands below the root unless the key starts with a dot or a slash, when the root
makes no difference, and is written after the name where no two dots stand beside each other. -/
theorem moduleOf?_ofRoots (disk : Disk) (roots : List Path) (key : String) :
    ((ofRoots roots).moduleOf? disk key = none ↔
      isStandard key = true ∨
        ∀ front, Dotted.IsFront front key → ∀ root ∈ roots, ¬ HasFile disk root front) ∧
    (∀ module path root, (ofRoots roots).moduleOf? disk key = some (module, path, root) ↔
      isStandard key = false ∧ IsFirst disk roots key module path root) ∧
    ∀ module, Dotted.IsFront module key → module ≠ "" → ∀ root,
      (IsOutside key → candidates root module = candidates ⟨""⟩ module) ∧
      (¬ IsOutside key → ∀ path ∈ candidates root module,
        path.isAbsolute = root.isAbsolute ∧ root.names <+: path.names) ∧
      (¬ IsOutside key → IsStepped key → candidates root module =
        [".py", ".pyi", "/__init__.py"].map fun ending =>
          root.join (relativePath module ++ ending)) := by
  refine ⟨moduleOf?_eq_none_iff, fun module path root => moduleOf?_eq_some_iff,
    fun module isFront filled root => ⟨fun outside => ?_, fun inside path => ?_,
      fun inside stepped => ?_⟩⟩
  · exact candidates_of_outside ((isOutside_front_iff isFront filled).mpr outside) root
  · exact below_of_mem_candidates filled ((isOutside_front_iff isFront filled).not.mpr inside)
  · have moduleInside := (isOutside_front_iff isFront filled).not.mpr inside
    rw [candidates_of_inside filled moduleInside,
      filesOf_of_isStepped filled moduleInside (stepped.front isFront), List.map_map]
    rfl

/-- A directory with a short front of a key, and one with a longer front, in two forms. -/
def sampleRoots : Disk where
  entries := [(["one"], .directory), (["one", "a.py"], .file (.text "")),
    (["two"], .directory), (["two", "a"], .directory), (["two", "a", "b"], .directory),
    (["two", "a", "b.pyi"], .file (.text "")),
    (["two", "a", "b", "__init__.py"], .file (.text ""))]
  home := []

/-- The longer front is found below the later root, as a stub before a package. -/
theorem moduleOf?_sampleRoots :
    IsFirst sampleRoots [⟨"/one"⟩, ⟨"/one/."⟩, ⟨"/two"⟩] "a.b.C" "a.b" ⟨"/two/a/b.pyi"⟩ ⟨"/two"⟩ ∧
      candidates ⟨"/two"⟩ "a.b" =
        [⟨"/two/a/b.py"⟩, ⟨"/two/a/b.pyi"⟩, ⟨"/two/a/b/__init__.py"⟩] := by
  obtain ⟨-, found, spelled⟩ :=
    moduleOf?_ofRoots sampleRoots [⟨"/one"⟩, ⟨"/one/."⟩, ⟨"/two"⟩] "a.b.C"
  refine ⟨((found _ _ _).mp ?_).2,
    ((spelled "a.b" (.inr ⟨"C", rfl⟩) (by decide) ⟨"/two"⟩).2.2 ?_ ?_).trans ?_⟩
  · decide +kernel
  · unfold IsOutside
    decide
  · unfold IsStepped
    decide
  · decide +kernel

/-- A directory beside the one that is searched. -/
def sampleBeside : Disk where
  entries := [(["root"], .directory), (["tmp"], .directory), (["tmp", "y.py"], .file (.text ""))]
  home := ["root"]

/-- A key that starts with a dot leads to a file although there is none below the root. -/
theorem moduleOf?_sampleBeside :
    (ofRoots [⟨"/root"⟩]).moduleOf? sampleBeside ".tmp.y.Z" =
        some (".tmp.y", ⟨"/tmp/y.py"⟩, ⟨"/root"⟩) ∧
      sampleBeside.filesBelow ["root"] = [] := by
  decide +kernel

end ImportSearch

end Declarations
