/-
This file proves that files of JSON, such as those of a cache, make no difference to where imports
lead: none of the paths at which a module is looked for leads to one. So sources that are
read once more lead to the same files, as long as they are read as before.
-/

import Declarations.Proofs.Build.Outcomes
import Declarations.Proofs.Build.Storing
import Mathlib.Data.List.Find

namespace Declarations

open Disk (ChangesOnly)

/-! ### Where imports are looked for -/

theorem Place.not_isJson_nil : ¬ Place.IsJson [] := by
  rintro ⟨above, stem, same⟩
  exact List.append_ne_nil_of_right_ne_nil above (List.cons_ne_nil _ _) same.symm

theorem Place.not_isJson_concat {name : String} (other : name.toList.getLast? ≠ some 'n')
    (above : Place) : ¬ Place.IsJson (above ++ [name]) := by
  rintro ⟨before, stem, same⟩
  have isJson : name = stem ++ ".json" := by simpa using (List.append_inj' same rfl).2
  refine other ?_
  rw [isJson, String.toList_append, List.getLast?_append_of_ne_nil _ (by decide)]
  decide

theorem Path.fileName?_of_slashes {path : Path} {count : Nat}
    (slashes : path.text.toList = List.replicate (count + 1) '/') : path.fileName? = none := by
  have none : path.names = [] := by
    have pieces : path.names =
        (Path.split path.text.toList).filter fun name => name != "" && name != "." := rfl
    rw [pieces, slashes, Path.split_slashes]
    refine List.filter_eq_nil_iff.mpr fun piece member => ?_
    rw [List.eq_of_mem_replicate member]
    decide
  have absolute : path.isAbsolute = true := by
    rw [Path.isAbsolute, slashes]
    rfl
  rw [fileName?, components, absolute, none]
  rfl

namespace ImportSearch

variable {disk before after : Disk} {place : Place} {name : String} {path root : Path}

/-- A path with another extension does not lead to a file of JSON. -/
theorem not_isJson_withExtension (named : name.isEmpty = false) {extension : String}
    (filled : extension ≠ "") (plain : '/' ∉ extension.toList)
    (other : extension.toList.getLast? ≠ some 'n')
    (located : disk.locate ((root.join (relativePath name)).withExtension extension) =
      .ok place) : ¬ place.IsJson := by
  have text := toList_relativePath name
  rcases steppedText_cases name with
    ⟨count, slashes⟩ | ⟨middle, last, count, stepped, isOpen, isName, noDot⟩
  · cases count with
    | zero =>
      rw [List.map_eq_nil_iff.mp slashes |> String.toList_eq_nil_iff.mp] at named
      cases named
    | succ count =>
      -- Such a name leads to the root, which has no file name that could get an extension.
      have written : (root.join (relativePath name)).text.toList =
          List.replicate (count + 1) '/' := by
        rw [Path.join, text, slashes]
        exact text.trans slashes
      have stays : (root.join (relativePath name)).withExtension extension =
          root.join (relativePath name) := by
        rw [Path.withExtension, Path.fileName?_of_slashes written]
      have absolute : (root.join (relativePath name)).isAbsolute = true := by
        rw [Path.isAbsolute, written]
        rfl
      rw [stays, Disk.locate_eq (by rw [written]; exact List.cons_ne_nil _ _), absolute,
        if_pos rfl, written, Path.split_slashes] at located
      have flat := Disk.length_of_follow (by simp) located
      rw [Disk.downs, List.countP_replicate] at flat
      rw [List.length_eq_zero_iff.mp flat]
      exact Place.not_isJson_nil
  · obtain ⟨front, frontOpen, joined⟩ := Path.exists_toList_join root (relativePath name)
    have written : (root.join (relativePath name)).text.toList =
        front ++ middle ++ (last.toList ++ List.replicate count '/') := by
      rw [joined, text, stepped, List.append_assoc]
    have extended := Path.isName_extended isName.nonempty isName.plain filled plain
    obtain ⟨above, rfl⟩ := Disk.exists_above_of_ends (frontOpen.append isOpen) extended
      (by
        rw [Path.withExtension_of_toList (frontOpen.append isOpen) isName written,
          Path.splitName_of_not_mem noDot]
        simp) located
    refine Place.not_isJson_concat ?_ above
    rw [String.toList_append, List.getLast?_append_of_ne_nil _
      fun empty => filled (String.toList_eq_nil_iff.mp empty)]
    exact other

/-- The paths at which a module may be found. -/
def candidates (root : Path) (name : String) : List Path :=
  let path := root.join (relativePath name)
  [path.withExtension "py", path.withExtension "pyi", path.join "__init__.py"]

/-- None of them leads to a file of JSON. -/
theorem not_isJson_of_mem_candidates (named : name.isEmpty = false)
    (member : path ∈ candidates root name) (located : disk.locate path = .ok place) :
    ¬ place.IsJson := by
  simp only [candidates, List.mem_cons, List.not_mem_nil, or_false] at member
  rcases member with isPlain | isStub | isPackage
  · rw [isPlain] at located
    exact not_isJson_withExtension named (by decide) (by decide) (by decide) located
  · rw [isStub] at located
    exact not_isJson_withExtension named (by decide) (by decide) (by decide) located
  · rw [isPackage] at located
    obtain ⟨above, -, -, rfl⟩ := (Disk.locate_join_iff (by decide)).mp located
    exact Place.not_isJson_concat (by decide) above

/-- Modules are found where they were found before. -/
theorem fileAt?_eq (changes : ChangesOnly Place.IsJson before after)
    (named : name.isEmpty = false) :
    fileAt? after (root.join (relativePath name)) =
      fileAt? before (root.join (relativePath name)) :=
  List.find?_congr fun _ member =>
    changes.isFile_eq fun _ => not_isJson_of_mem_candidates named member

theorem find?_eq (changes : ChangesOnly Place.IsJson before after) (search : ImportSearch)
    (name : String) : search.find? after name = search.find? before name := by
  unfold find?
  split
  · rfl
  next named =>
    simp only [fileAt?_eq changes (Bool.eq_false_iff.mpr named)]

theorem moduleOf?_eq (changes : ChangesOnly Place.IsJson before after) (search : ImportSearch)
    (key : String) : search.moduleOf? after key = search.moduleOf? before key := by
  unfold moduleOf?
  simp only [find?_eq changes]

/-- The file of a module that is found has the text it had. -/
theorem readText_eq (changes : ChangesOnly Place.IsJson before after) {search : ImportSearch}
    (found : search.find? before name = some (path, root)) :
    after.readText path = before.readText path := by
  unfold find? at found
  split at found
  · cases found
  next named =>
    obtain ⟨base, -, here⟩ := List.exists_of_findSome?_eq_some found
    obtain ⟨file, isFile, same⟩ := Option.map_eq_some_iff.mp here
    cases same
    obtain ⟨place, content, located, -⟩ := Disk.locate_of_isFile (List.find?_some isFile)
    exact changes.readText_eq located
      (not_isJson_of_mem_candidates (Bool.eq_false_iff.mpr named)
        (List.mem_of_find?_eq_some isFile) located)

end ImportSearch

namespace Analysis

variable {before after : Disk} {policy : FollowImports}

/-- The same imports are taken into account. -/
theorem inspect_eq (changes : ChangesOnly Place.IsJson before after) (search : ImportSearch) :
    inspect search after policy = inspect search before policy := by
  have imported (seen : List String) (module : Module) :
      importedModules search after seen module = importedModules search before seen module := by
    unfold importedModules
    simp only [ImportSearch.moduleOf?_eq changes]
  funext progress visit
  unfold inspect
  simp only [imported]

theorem rounds_eq (changes : ChangesOnly Place.IsJson before after) {search : ImportSearch}
    {read : BuildSource → Except Problem Reading} (count : Nat) (progress : Progress) :
    rounds search after policy read count progress =
      rounds search before policy read count progress := by
  induction count generalizing progress with
  | zero => rfl
  | succ count inductionHypothesis =>
    unfold rounds round
    rw [inspect_eq changes]
    simp only [inductionHypothesis]

/-- The limit on rounds makes no difference where it is not reached. -/
theorem rounds_eq_of_queue {search : ImportSearch} {disk : Disk}
    {read : BuildSource → Except Problem Reading} {count other : Nat} {progress : Progress}
    (done : (rounds search disk policy read count progress).queue = [])
    (otherDone : (rounds search disk policy read other progress).queue = []) :
    rounds search disk policy read count progress =
      rounds search disk policy read other progress := by
  induction count generalizing other progress with
  | zero => exact (rounds_of_done read done other).symm
  | succ count inductionHypothesis =>
    cases other with
    | zero => exact rounds_of_done read otherDone _
    | succ other =>
      unfold rounds at done otherDone ⊢
      split
      · rfl
      next more =>
        rw [if_neg more] at done otherDone
        exact inductionHypothesis done otherDone

/-- Reading sources visits the same, since imports lead to the same files. -/
theorem visitAll_eq (changes : ChangesOnly Place.IsJson before after)
    {read : BuildSource → Except Problem Reading} {sources : List BuildSource}
    (done : (visitAll before policy read sources).queue = [])
    (otherDone : (visitAll after policy read sources).queue = []) :
    visitAll after policy read sources = visitAll before policy read sources := by
  unfold visitAll at done otherDone ⊢
  dsimp only at done otherDone ⊢
  unfold round at done otherDone ⊢
  rw [rounds_eq changes, inspect_eq changes] at otherDone ⊢
  exact rounds_eq_of_queue otherDone done

end Analysis

end Declarations
