/-
This file proves that the two ways between files and module names fit together. A file is
named after the packages around it, and an import follows a name from the base of the file
downwards; so it comes back to where the file stands, and finds the first of the files that
may hold a module of this name.
-/

import Declarations.Build.Source
import Declarations.Proofs.Build.Finding
import Declarations.Proofs.Disk.Places

namespace Declarations

open Declarations.Path (IsName splitName)

/-! ### Extensions -/

namespace Path

variable {name stem extension : String}

/-- A name with an extension is a stem, a dot and the extension. -/
theorem eq_of_splitName (same : splitName name = (stem, some extension)) :
    name = stem ++ "." ++ extension ∧ stem ≠ "" := by
  unfold splitName at same
  dsimp only at same
  split at same
  next => cases same
  next => cases same
  next dot back filled cut =>
    have stops : decide (dot ≠ '.') = false := by
      have first := List.head?_dropWhile_not (· ≠ '.') name.toList.reverse
      rw [cut] at first
      exact first
    have isDot : dot = '.' := by simpa using stops
    have whole := @List.takeWhile_append_dropWhile _ (· ≠ '.') name.toList.reverse
    injection same with isStem isExtension
    injection isExtension with isExtension
    constructor
    · refine String.toList_injective ?_
      rw [← List.reverse_reverse name.toList, ← whole, cut, isDot, ← isStem, ← isExtension]
      simp
    · rintro rfl
      exact filled (List.reverse_eq_nil_iff.mp (String.ofList_eq_empty_iff.mp isStem))

theorem splitName_extended (filled : stem ≠ "") (plain : '.' ∉ extension.toList) :
    splitName (stem ++ "." ++ extension) = (stem, some extension) := by
  have kept : ∀ character ∈ extension.toList.reverse, decide (character ≠ '.') = true := by
    intro character member
    refine decide_eq_true ?_
    rintro rfl
    exact plain (List.mem_reverse.mp member)
  have reversed : (stem ++ "." ++ extension).toList.reverse =
      extension.toList.reverse ++ '.' :: stem.toList.reverse := by simp
  unfold splitName
  rw [reversed]
  dsimp only
  rw [List.takeWhile_append_of_pos kept, List.dropWhile_append_of_pos kept]
  obtain ⟨last, before, written⟩ := List.exists_cons_of_ne_nil
    (by simpa using filled : stem.toList.reverse ≠ [])
  have back : (last :: before).reverse = stem.toList := by rw [← written, List.reverse_reverse]
  have here : ('.' :: stem.toList.reverse).takeWhile (· ≠ '.') = [] := rfl
  have behind : ('.' :: stem.toList.reverse).dropWhile (· ≠ '.') = '.' :: last :: before := by
    rw [written]
    rfl
  rw [here, behind]
  dsimp only
  rw [back, List.append_nil, List.reverse_reverse, String.ofList_toList, String.ofList_toList]

end Path

/-! ### Names of files -/

/-- Whether no package has a dot in its name, and no source has one in front of its extension. -/
structure Disk.HasModuleNames (disk : Disk) : Prop where
  packages : ∀ stands ∈ disk.entries, stands.1.getLast? = some BuildSource.packageFile →
    ∀ name ∈ stands.1.dropLast.getLast?, '.' ∉ name.toList
  sources : ∀ stands ∈ disk.entries, ∀ name ∈ stands.1.getLast?,
    (splitName name).2 = some "py" ∨ (splitName name).2 = some "pyi" →
      '.' ∉ (splitName name).1.toList

namespace BuildSource

variable {disk : Disk} {place : Place} {name : String}

theorem isName_packageFile : IsName packageFile :=
  Path.isName_extended (by decide : "__init__" ≠ "") (by decide) (by decide : "py" ≠ "") (by decide)

/-- The packages around a directory are the directories that hold it, from a base downwards, each
with the file of a package. -/
theorem exists_packages (count : Nat) (isName : ∀ name ∈ place, IsName name)
    (enough : place.length ≤ count) :
    ∃ base packages, place = base ++ packages ∧
      packagesFrom disk count place.path = (packages.reverse, base.path) ∧
      (∀ front name, front ++ [name] <+: packages →
        disk.isFile (Place.path (base ++ front ++ [name] ++ [packageFile])) = true) ∧
      (packages = [] → base ≠ [] → disk.isFile (Place.path (place ++ [packageFile])) = false) := by
  have none {base : Place} (front : List String) (name : String)
      (inside : front ++ [name] <+: []) :
      disk.isFile (Place.path (base ++ front ++ [name] ++ [packageFile])) = true :=
    absurd (List.prefix_nil.mp inside) (by simp)
  induction count generalizing place with
  | zero =>
    obtain rfl := List.length_eq_zero_iff.mp (Nat.le_zero.mp enough)
    exact ⟨[], [], rfl, rfl, none, fun _ filled => absurd rfl filled⟩
  | succ count inductionHypothesis =>
    unfold packagesFrom
    rw [Place.join_path_name isName isName_packageFile]
    cases package : disk.isFile (Place.path (place ++ [packageFile])) with
    | false =>
      rw [if_neg Bool.false_ne_true]
      exact ⟨place, [], (List.append_nil _).symm, rfl, none, fun _ _ => rfl⟩
    | true =>
      rw [if_pos rfl]
      rcases List.eq_nil_or_concat place with rfl | ⟨above, name, rfl⟩
      · exact ⟨[], [], rfl, rfl, none, fun _ filled => absurd rfl filled⟩
      · rw [List.concat_eq_append] at isName enough package ⊢
        have valid := List.forall_mem_append.mp isName
        rw [Place.fileName?_path above (valid.2 name List.mem_cons_self), Place.parent?_path isName]
        dsimp only
        obtain ⟨base, packages, rfl, same, files, -⟩ :=
          inductionHypothesis valid.1 (by simpa using enough)
        rw [same]
        refine ⟨base, packages ++ [name], List.append_assoc _ _ _, by simp, ?_, by simp⟩
        intro front last inside
        rcases List.prefix_concat_iff.mp inside with whole | shorter
        · obtain ⟨rfl, rfl⟩ := List.append_singleton_inj.mp whole
          exact package
        · exact files front last shorter

theorem plain_of_packages (tree : disk.IsTree) (named : disk.HasModuleNames) {base : Place}
    {packages : List String} (isName : ∀ name ∈ base ++ packages, IsName name)
    (files : ∀ front name, front ++ [name] <+: packages →
      disk.isFile (Place.path (base ++ front ++ [name] ++ [packageFile])) = true) :
    ∀ name ∈ packages, '.' ∉ name.toList := by
  intro name member
  obtain ⟨front, back, rfl⟩ := List.append_of_mem member
  have inside : ∀ other ∈ base ++ front ++ [name] ++ [packageFile], IsName other := by
    refine List.forall_mem_append.mpr ⟨fun other among => isName other ?_,
      by simpa using isName_packageFile⟩
    simp only [List.mem_append, List.mem_cons, List.not_mem_nil, or_false] at among ⊢
    tauto
  obtain ⟨content, stands⟩ := (tree.isFile_path_iff inside).mp (files front name ⟨back, by simp⟩)
  exact named.packages _ (Disk.mem_of_stands_file stands) List.getLast?_concat name
    (by rw [List.dropLast_concat, List.getLast?_concat]; rfl)

/-- The module name of a file has the packages around the file and, except for the file of a
package, the name of the file. -/
theorem exists_moduleName (disk : Disk) (isName : ∀ other ∈ place ++ [name], IsName other) :
    ∃ base packages, place = base ++ packages ∧
      moduleName disk (Place.path (place ++ [name])) =
        (Dotted.join (packages ++
          if (splitName name).1 = "__init__" then [] else [(splitName name).1]), base.path) ∧
      (∀ front name, front ++ [name] <+: packages →
        disk.isFile (Place.path (base ++ front ++ [name] ++ [packageFile])) = true) ∧
      (packages = [] → base ≠ [] → disk.isFile (Place.path (place ++ [packageFile])) = false) := by
  have valid := List.forall_mem_append.mp isName
  have enough : place.length ≤ (Place.path (place ++ [name])).components.length + 1 := by
    rw [Place.length_components_path isName, List.length_append]
    omega
  obtain ⟨base, packages, same, found, rest⟩ := exists_packages _ valid.1 enough
  refine ⟨base, packages, same, ?_, rest⟩
  unfold moduleName
  rw [Place.stem?_path place (valid.2 name List.mem_cons_self), Place.parent?_path isName]
  dsimp only [Option.getD_some]
  rw [found, List.reverse_reverse]

/-- Where packages have no dot in their names, no part of a module name has, except for the last. -/
theorem moduleName_path (tree : disk.IsTree) (named : disk.HasModuleNames)
    (isName : ∀ other ∈ place ++ [name], IsName other) :
    ∃ base packages, place = base ++ packages ∧
      moduleName disk (Place.path (place ++ [name])) =
        (Dotted.join (packages ++
          if (splitName name).1 = "__init__" then [] else [(splitName name).1]), base.path) ∧
      (∀ name ∈ packages, '.' ∉ name.toList) ∧
      (packages = [] → base ≠ [] → disk.isFile (Place.path (place ++ [packageFile])) = false) := by
  obtain ⟨base, packages, rfl, same, files, stops⟩ := exists_moduleName disk isName
  have plain := plain_of_packages tree named (List.forall_mem_append.mp isName).1 files
  exact ⟨base, packages, rfl, same, plain, stops⟩

/-- The source of the file at a place. -/
def atPlace (disk : Disk) (place : Place) : BuildSource :=
  ⟨place.path, (moduleName disk place.path).1, (moduleName disk place.path).2⟩

theorem ofPath_of_locate {path : Path} {entry : DiskEntry} (located : disk.locate path = .ok place)
    (stands : disk.entry? place = some entry) : ofPath disk path = atPlace disk place := by
  unfold ofPath
  rw [Disk.absolute_of_locate located stands]
  rfl

end BuildSource

/-! ### Files of names -/

namespace ImportSearch

variable {disk : Disk} {base parts place : Place} {name : String}

theorem steppedText_of_not_mem (plain : '.' ∉ name.toList) : steppedText name = name.toList := by
  refine (List.map_congr_left fun character member => ?_).trans (List.map_id _)
  rw [if_neg]
  · rfl
  · rintro rfl
    exact plain member

theorem steppedText_join (filled : parts ≠ []) (plain : ∀ name ∈ parts, '.' ∉ name.toList) :
    '/' :: steppedText (Dotted.join parts) = Place.slashed parts := by
  induction parts with
  | nil => exact absurd rfl filled
  | cons name rest inductionHypothesis =>
    obtain ⟨first, more⟩ := List.forall_mem_cons.mp plain
    have slashed : Place.slashed (name :: rest) = '/' :: (name.toList ++ Place.slashed rest) := rfl
    by_cases last : rest = []
    · subst last
      have only : Dotted.join [name] = name := String.intercalate_singleton
      rw [only, steppedText_of_not_mem first, slashed]
      exact congrArg _ (List.append_nil _).symm
    · have both :
          Dotted.join (name :: rest) = Dotted.below (Dotted.join [name]) (Dotted.join rest) :=
        Dotted.join_append (List.cons_ne_nil _ []) last
      have only : Dotted.join [name] = name := String.intercalate_singleton
      rw [both, only, steppedText_below, steppedText_of_not_mem first,
        inductionHypothesis last more, slashed]

theorem join_ne_empty (filled : parts ≠ []) (isName : ∀ name ∈ parts, IsName name)
    (plain : ∀ name ∈ parts, '.' ∉ name.toList) : Dotted.join parts ≠ "" := by
  intro empty
  have text := steppedText_join filled plain
  rw [empty] at text
  cases parts with
  | nil => exact filled rfl
  | cons name rest =>
    have tail : [] = name.toList ++ Place.slashed rest := (List.cons.inj text).2
    exact (isName name List.mem_cons_self).toList_ne_nil (List.append_eq_nil_iff.mp tail.symm).1

/-- The name of a module leads from a base to the place that its parts name. -/
theorem find?_join (filled : parts ≠ []) (isName : ∀ name ∈ base ++ parts, IsName name)
    (plain : ∀ name ∈ parts, '.' ∉ name.toList) :
    (ofRoots [base.path]).find? disk (Dotted.join parts) =
      (fileAt? disk (Place.path (base ++ parts))).map fun path => (path, base.path) := by
  obtain ⟨baseNames, partNames⟩ := List.forall_mem_append.mp isName
  have notEmpty : (Dotted.join parts).isEmpty = false := by
    rw [← Bool.not_eq_true, String.isEmpty_iff]
    exact join_ne_empty filled partNames plain
  have roots : (ofRoots [base.path]).roots = [base.path] := rfl
  have text : '/' :: (relativePath (Dotted.join parts)).toList = Place.slashed parts := by
    rw [toList_relativePath, steppedText_join filled plain]
  unfold find?
  rw [notEmpty, if_neg Bool.false_ne_true, roots, List.findSome?_singleton,
    Place.join_path baseNames partNames text]

/-- The files that may hold a module stand beside each other, and in the directory of its name. -/
theorem fileAt?_path (isName : ∀ other ∈ place ++ [name], IsName other)
    (plain : '.' ∉ name.toList) :
    fileAt? disk (Place.path (place ++ [name])) =
      [Place.path (place ++ [name ++ "." ++ "py"]), Place.path (place ++ [name ++ "." ++ "pyi"]),
        Place.path (place ++ [name, BuildSource.packageFile])].find? disk.isFile := by
  have last : IsName name := isName name (by simp)
  have package : (Place.path (place ++ [name])).join "__init__.py" =
      Place.path (place ++ [name, BuildSource.packageFile]) := by
    have below := Place.join_path_name isName BuildSource.isName_packageFile
    rwa [List.append_assoc] at below
  unfold fileAt?
  rw [Place.withExtension_path place last, Place.withExtension_path place last,
    Path.splitName_of_not_mem plain, package]

end ImportSearch

/-! ### Importing sources by name -/

namespace BuildSource

variable {disk : Disk} {place : Place} {stem extension : String} {content : FileContent}

/-- The files that an import of a source finds instead of the file of the source: those beside
the directory of a package, and the one that a stub stands for. -/
def rivals (source : BuildSource) : List Path :=
  (if source.path.stem? = some "__init__" then
    source.path.parent?.toList.flatMap fun directory =>
      [directory.withExtension "py", directory.withExtension "pyi"]
  else []) ++
    if source.path.extension? = some "pyi" then [source.path.withExtension "py"] else []

/-- Whether the file of a package stands in one, which is not the root. Other files always have
names. -/
def HasName (disk : Disk) (source : BuildSource) : Prop :=
  source.path.stem? = some "__init__" → ∃ directory, source.path.parent? = some directory ∧
    directory ≠ ⟨"/"⟩ ∧ disk.isFile (directory.join packageFile) = true

/-- Whether an import of a source by its name finds the file of the source, or a rival of it if
one is there. -/
def IsFound (disk : Disk) (source : BuildSource) : Prop :=
  source.module ≠ "" ∧ (ImportSearch.ofRoots [source.base]).find? disk source.module =
    some ((source.rivals.find? disk.isFile).getD source.path, source.base)

theorem splitName_of_isSource (filled : stem ≠ "")
    (isSource : extension = "py" ∨ extension = "pyi") :
    splitName (stem ++ "." ++ extension) = (stem, some extension) := by
  refine Path.splitName_extended filled ?_
  rcases isSource with rfl | rfl <;> decide

theorem rivals_atPlace (isName : ∀ name ∈ place ++ [stem ++ "." ++ extension], IsName name)
    (filled : stem ≠ "") (isSource : extension = "py" ∨ extension = "pyi") :
    (atPlace disk (place ++ [stem ++ "." ++ extension])).rivals =
      (if stem = "__init__" then
        [place.path.withExtension "py", place.path.withExtension "pyi"] else []) ++
        if extension = "pyi" then [Place.path (place ++ [stem ++ "." ++ "py"])] else [] := by
  have split := splitName_of_isSource filled isSource
  have lastName := isName (stem ++ "." ++ extension) (by simp)
  unfold rivals atPlace
  rw [Place.stem?_path place lastName, Place.extension?_path place lastName,
    Place.withExtension_path place lastName, Place.parent?_path isName, split]
  simp only [Option.some.injEq, Option.toList_some, List.flatMap_singleton]

theorem find?_append_cons {α : Type} {test : α → Bool} (front back : List α) {value : α}
    (passes : test value = true) :
    (front ++ value :: back).find? test = some ((front.find? test).getD value) := by
  rw [List.find?_append, List.find?_cons_of_pos passes]
  cases front.find? test with
  | none => rfl
  | some found => rfl

/-- The file of a package is found by the name of the package. -/
theorem isFound_package (tree : disk.IsTree) (named : disk.HasModuleNames)
    (isName : ∀ name ∈ place ++ ["__init__" ++ "." ++ extension], IsName name)
    (isSource : extension = "py" ∨ extension = "pyi") (filled : place ≠ [])
    (package : disk.isFile (Place.path (place ++ [packageFile])) = true) :
    IsFound disk (atPlace disk (place ++ ["__init__" ++ "." ++ extension])) := by
  have split : splitName ("__init__" ++ "." ++ extension) = ("__init__", some extension) :=
    splitName_of_isSource (by decide) isSource
  obtain ⟨base, packages, rfl, same, plain, stops⟩ := moduleName_path tree named isName
  rw [split, if_pos rfl, List.append_nil] at same
  have inside : packages ≠ [] := by
    rintro rfl
    rw [stops rfl (by simpa using filled)] at package
    cases package
  obtain ⟨front, last, rfl⟩ := (List.eq_nil_or_concat packages).resolve_left inside
  rw [List.concat_eq_append] at inside plain same package isName ⊢
  have directory := (List.forall_mem_append.mp isName).1
  have lastPlain : '.' ∉ last.toList := plain last (by simp)
  have lastName : IsName last := directory last (by simp)
  have found : (ImportSearch.ofRoots [base.path]).find? disk (Dotted.join (front ++ [last])) = _ :=
    ImportSearch.find?_join inside directory plain
  unfold IsFound
  rw [rivals_atPlace isName (by decide) isSource, if_pos rfl]
  unfold atPlace
  rw [same]
  dsimp only
  refine ⟨ImportSearch.join_ne_empty inside (List.forall_mem_append.mp directory).2 plain, ?_⟩
  rw [← List.append_assoc] at directory package found ⊢
  have isFile : disk.isFile (Place.path (base ++ front ++ [last, packageFile])) = true := by
    rwa [List.append_assoc _ [last]] at package
  have first := find?_append_cons [Place.path (base ++ front ++ [last ++ "." ++ "py"]),
    Place.path (base ++ front ++ [last ++ "." ++ "pyi"])] [] isFile
  rw [found, ImportSearch.fileAt?_path directory lastPlain, Place.withExtension_path _ lastName,
    Place.withExtension_path _ lastName, Path.splitName_of_not_mem lastPlain]
  refine (congrArg _ first).trans ?_
  rcases isSource with rfl | rfl
  · rw [if_neg (by decide), List.append_nil, List.append_assoc _ [last]]
    rfl
  · rw [if_pos rfl, List.append_assoc _ [last]]
    exact congrArg (fun found : Option Path => some (found.getD _, base.path)) first.symm

/-- A file that is not that of a package is found by its name. -/
theorem isFound_plain (tree : disk.IsTree) (named : disk.HasModuleNames)
    (stands : disk.entry? (place ++ [stem ++ "." ++ extension]) = some (.file content))
    (isSource : extension = "py" ∨ extension = "pyi") (other : stem ≠ "__init__")
    (filled : stem ≠ "") : IsFound disk (atPlace disk (place ++ [stem ++ "." ++ extension])) := by
  have isName := tree.isName stands
  have file := (tree.isFile_path_iff isName).mpr ⟨content, stands⟩
  have split := splitName_of_isSource filled isSource
  obtain ⟨base, packages, rfl, same, plain, -⟩ := moduleName_path tree named isName
  rw [split, if_neg other] at same
  have stemPlain : '.' ∉ stem.toList := by
    have plain := named.sources _ (Disk.mem_of_stands_file stands) _ List.getLast?_concat
    rw [split] at plain
    exact plain (by simpa using isSource)
  have lastName : IsName (stem ++ "." ++ extension) := isName _ (by simp)
  have stemName : IsName stem := Path.isName_of_not_mem filled lastName.plain_stem stemPlain
  have partsPlain : ∀ name ∈ packages ++ [stem], '.' ∉ name.toList :=
    List.forall_mem_append.mpr ⟨plain, by simpa using stemPlain⟩
  have inside : packages ++ [stem] ≠ [] := by simp
  have directory := (List.forall_mem_append.mp isName).1
  have beside : ∀ name ∈ base ++ packages ++ [stem], IsName name :=
    List.forall_mem_append.mpr ⟨directory, by simpa using stemName⟩
  have partNames : ∀ name ∈ packages ++ [stem], IsName name := by
    rw [List.append_assoc] at beside
    exact (List.forall_mem_append.mp beside).2
  have found :
      (ImportSearch.ofRoots [base.path]).find? disk (Dotted.join (packages ++ [stem])) = _ :=
    ImportSearch.find?_join inside (by rwa [← List.append_assoc]) partsPlain
  rw [← List.append_assoc, ImportSearch.fileAt?_path beside stemPlain] at found
  unfold IsFound
  rw [rivals_atPlace isName filled isSource, if_neg other, List.nil_append]
  unfold atPlace
  rw [same]
  dsimp only
  refine ⟨ImportSearch.join_ne_empty inside partNames partsPlain, ?_⟩
  rw [found]
  rcases isSource with rfl | rfl
  · rw [if_neg (by decide)]
    exact congrArg _ (find?_append_cons [] _ file)
  · rw [if_pos rfl]
    exact congrArg _ (find?_append_cons [_] _ file)

end BuildSource

end Declarations
