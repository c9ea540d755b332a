/-
This file proves which module the lookup of a file gives. A build may read one file under several
names, and a lookup takes the module of the least name. The name that a file has from the packages
around it is no greater than any name that leads to the file without empty steps: such a name has
the same parts, perhaps with the name of the package file behind them, and stands above it in the
order of names. Names with empty steps may come first.
-/

import Declarations.Proofs.Build.InputOrder
import Declarations.Proofs.Build.KeySearch

namespace Declarations

open Declarations.Path (IsName splitName)

/-! ### Names with the same steps -/

theorem not_lt_of_map_steps : ∀ {first second : List Char},
    first.map (fun character => if character = '.' then '/' else character) =
      second.map (fun character => if character = '.' then '/' else character) →
    '/' ∉ first → ¬ second < first
  | [], _, _, _ => List.not_lt_nil _
  | _ :: _, [], same, _ => nomatch same
  | character :: rest, other :: others, same, plain => by
    obtain ⟨here, behind⟩ := List.cons.inj same
    dsimp only at here
    obtain ⟨noSlash, restPlain⟩ := not_or.mp (List.mem_cons.not.mp plain)
    have below : ¬ other < character := by
      by_cases dot : character = '.'
      · rw [if_pos dot] at here
        by_cases otherDot : other = '.'
        · rw [dot, otherDot]
          decide
        · rw [if_neg otherDot] at here
          rw [dot, ← here]
          decide
      · rw [if_neg dot] at here
        by_cases otherDot : other = '.'
        · rw [if_pos otherDot] at here
          exact absurd here.symm noSlash
        · rw [if_neg otherDot] at here
          rw [here]
          exact Char.lt_irrefl _
    rw [List.cons_lt_cons_iff, not_or, not_and]
    exact ⟨below, fun _ => not_lt_of_map_steps behind restPlain⟩

/-- A dot is less than a slash, so of names with the same steps the one without slashes is least. -/
theorem le_of_steppedText {first second : String} (same : steppedText first = steppedText second)
    (plain : '/' ∉ first.toList) : first ≤ second :=
  String.not_lt.mp (not_lt_of_map_steps same plain)

namespace Dotted

variable {parts front : List String} {name : String}

theorem join_singleton (name : String) : join [name] = name :=
  String.intercalate_singleton

theorem slash_not_mem_join (plain : ∀ name ∈ parts, '/' ∉ name.toList) :
    '/' ∉ (join parts).toList := by
  induction parts with
  | nil => exact List.not_mem_nil
  | cons name rest inductionHypothesis =>
    obtain ⟨first, more⟩ := List.forall_mem_cons.mp plain
    by_cases last : rest = []
    · rwa [last, join_singleton]
    · have both : join (name :: rest) = below (join [name]) (join rest) :=
        join_append (List.cons_ne_nil _ []) last
      rw [both, join_singleton, toList_below, List.mem_append, List.mem_cons, not_or, not_or]
      exact ⟨first, by decide, inductionHypothesis more⟩

theorem join_le_join_concat (front : List String) (name : String) :
    join front ≤ join (front ++ [name]) := by
  by_cases none : front = []
  · rw [none]
    exact String.not_lt.mp (List.not_lt_nil _)
  · rw [join_append none (List.cons_ne_nil name []), join_singleton]
    exact String.not_lt.mp (String.lt_asymm (lt_below _ _))

end Dotted

/-! ### Where names without empty steps lead -/

theorem Place.slashed_split (text : List Char) : slashed (Path.split text) = '/' :: text := by
  have back : String.toList ∘ String.ofList = id := funext fun text => String.toList_ofList
  have filled : Path.split text ≠ [] := by
    unfold Path.split
    simp
  rw [slashed_eq_cons filled, Path.split, String.toList_intercalate, List.map_map, back,
    List.map_id]
  exact congrArg _ (List.intercalate_splitOn '/')

namespace ImportSearch

variable {disk : Disk} {base : Place} {path root : Path} {module : String}

/-- A name without empty steps leads down along its parts, and is not less than they are when they
are joined with dots. -/
theorem exists_parts (stepped : IsStepped module) :
    ∃ front last, (∀ name ∈ front ++ [last], IsName name ∧ '.' ∉ name.toList) ∧
      '/' :: (relativePath module).toList = Place.slashed (front ++ [last]) ∧
      Dotted.join (front ++ [last]) ≤ module := by
  have slashed := Place.slashed_split (steppedText module)
  have plain : ∀ name ∈ Path.split (steppedText module), IsName name ∧ '.' ∉ name.toList := by
    intro name member
    have noDot : '.' ∉ name.toList := fun inside =>
      dot_not_mem_steppedText module (Path.mem_of_mem_split member inside)
    refine ⟨Path.isName_of_not_mem ?_ (Path.plain_of_mem_split member) noDot, noDot⟩
    rintro rfl
    exact stepped member
  generalize Path.split (steppedText module) = parts at slashed plain
  obtain ⟨front, last, rfl⟩ := (List.eq_nil_or_concat parts).resolve_left (by
    rintro rfl
    cases slashed)
  rw [List.concat_eq_append] at slashed plain
  refine ⟨front, last, plain, by rw [toList_relativePath, slashed], ?_⟩
  refine le_of_steppedText ?_
    (Dotted.slash_not_mem_join fun name member => (plain name member).1.plain)
  have joined := steppedText_join (by simp) fun name member => (plain name member).2
  exact (List.cons.inj (joined.trans slashed)).2

/-- The files below a directory that may hold a module, by the last part of its name. -/
def formsOf (last : String) : List Place :=
  [[last ++ "." ++ "py"], [last ++ "." ++ "pyi"], [last, BuildSource.packageFile]]

theorem isName_of_mem_formsOf {last : String} (isName : IsName last) {file : Place}
    (form : file ∈ formsOf last) : ∀ name ∈ file, IsName name := by
  simp only [formsOf, List.mem_cons, List.not_mem_nil, or_false] at form
  rcases form with rfl | rfl | rfl
  · exact List.forall_mem_singleton.mpr
      (Path.isName_extended isName.nonempty isName.plain (by decide) (by decide))
  · exact List.forall_mem_singleton.mpr
      (Path.isName_extended isName.nonempty isName.plain (by decide) (by decide))
  · exact List.forall_mem_cons.mpr
      ⟨isName, List.forall_mem_singleton.mpr BuildSource.isName_packageFile⟩

/-- The file that is found for a name without empty steps stands where the parts of the name lead
from the base. -/
theorem exists_place_of_find? (isName : ∀ name ∈ base, IsName name) (stepped : IsStepped module)
    (found : (ofRoots [base.path]).find? disk module = some (path, root)) :
    ∃ front last file, last ≠ "" ∧ Dotted.join (front ++ [last]) ≤ module ∧ file ∈ formsOf last ∧
      disk.locate path = .ok (base ++ (front ++ file)) ∧
      (∃ content, disk.entry? (base ++ (front ++ file)) = some (.file content)) := by
  obtain ⟨front, last, plain, slashed, least⟩ := exists_parts stepped
  have partNames : ∀ name ∈ front ++ [last], IsName name := fun name member => (plain name member).1
  have allNames : ∀ name ∈ base ++ front ++ [last], IsName name := by
    rw [List.append_assoc]
    exact List.forall_mem_append.mpr ⟨isName, partNames⟩
  have lastName : IsName last := partNames last (by simp)
  obtain ⟨⟨before, after, split, -⟩, -, isFound⟩ := find?_ofRoots_eq_some_iff.mp found
  obtain rfl : root = base.path := List.mem_singleton.mp (split ▸ by simp)
  have files : fileAt? disk (base.path.join (relativePath module)) = some path := isFound
  rw [Place.join_path isName partNames slashed, ← List.append_assoc,
    fileAt?_path allNames (plain last (by simp)).2] at files
  obtain ⟨file, form, rfl⟩ : ∃ file ∈ formsOf last,
      path = Place.path (base ++ (front ++ file)) := by
    have member := List.mem_of_find?_eq_some files
    simp only [List.mem_cons, List.not_mem_nil, or_false, List.append_assoc] at member
    simpa [formsOf] using member
  have fileNames : ∀ name ∈ base ++ (front ++ file), IsName name :=
    List.forall_mem_append.mpr ⟨isName, List.forall_mem_append.mpr
      ⟨(List.forall_mem_append.mp partNames).1, isName_of_mem_formsOf lastName form⟩⟩
  obtain ⟨place, content, located, stands⟩ := Disk.locate_of_isFile (List.find?_some files)
  have filled : base ++ (front ++ file) ≠ [] := by
    intro empty
    rw [empty] at located
    cases located
    cases stands
  obtain ⟨rfl, -⟩ := (Disk.locate_path_iff fileNames filled).mp located
  exact ⟨front, last, file, lastName.nonempty, least, form, located, content, stands⟩

end ImportSearch

/-! ### The own name of a file -/

theorem Place.eq_of_same {first second : Place} (isName : ∀ name ∈ first, IsName name)
    (alsoName : ∀ name ∈ second, IsName name) (same : first.path.same second.path = true) :
    first = second := by
  rw [← names_path isName, ← names_path alsoName, (Path.names_of_same same).2]

theorem Disk.isDirectory_of_isFile {disk : Disk} {path : Path}
    (isFile : disk.isFile path = true) : disk.isDirectory path = false := by
  unfold Disk.isFile at isFile
  unfold Disk.isDirectory
  split at isFile
  next found => rw [found]
  next => cases isFile

/-- The absolute path of a file is its own absolute path. -/
theorem Disk.IsTree.absolute_absolute {disk : Disk} {path : Path} (tree : disk.IsTree)
    (isFile : disk.isFile path = true) :
    disk.absolute (disk.absolute path) = disk.absolute path := by
  obtain ⟨place, content, located, stands⟩ := locate_of_isFile isFile
  have isName := tree.isName stands
  obtain ⟨other, _, otherLocated, otherStands⟩ :=
    locate_of_isFile ((tree.isFile_path_iff isName).mpr ⟨content, stands⟩)
  have filled : place ≠ [] := by
    rintro rfl
    cases stands
  obtain ⟨rfl, -⟩ := (locate_path_iff isName filled).mp otherLocated
  rw [absolute_of_locate located stands, absolute_of_locate otherLocated otherStands]

namespace BuildSource

variable {disk : Disk} {place front file : Place} {packages : List String} {name last : String}

/-- The parts of the name of a file, joined with dots, are not greater than those of a name that
leads to it. -/
theorem join_le_of_formsOf (filled : last ≠ "") (form : file ∈ ImportSearch.formsOf last)
    (same : packages ++ [name] = front ++ file) :
    Dotted.join (packages ++ if (splitName name).1 = "__init__" then [] else [(splitName name).1]) ≤
      Dotted.join (front ++ [last]) := by
  have beside {extension : String} (isSource : extension = "py" ∨ extension = "pyi")
      (same : packages ++ [name] = front ++ [last ++ "." ++ extension]) :
      Dotted.join (packages ++
        if (splitName name).1 = "__init__" then [] else [(splitName name).1]) ≤
          Dotted.join (front ++ [last]) := by
    obtain ⟨rfl, rfl⟩ := List.append_singleton_inj.mp same
    rw [splitName_of_isSource filled isSource]
    split
    · rw [List.append_nil]
      exact Dotted.join_le_join_concat _ _
    · exact String.le_refl _
  simp only [ImportSearch.formsOf, List.mem_cons, List.not_mem_nil, or_false] at form
  rcases form with rfl | rfl | rfl
  · exact beside (.inl rfl) same
  · exact beside (.inr rfl) same
  · have package : packages ++ [name] = (front ++ [last]) ++ [packageFile] := by
      rw [same, List.append_assoc]
      rfl
    obtain ⟨rfl, rfl⟩ := List.append_singleton_inj.mp package
    have stem : (splitName packageFile).1 = "__init__" := by decide
    have whole : front ++ [last] ++ (if (splitName packageFile).1 = "__init__" then []
        else [(splitName packageFile).1]) = front ++ [last] := by
      rw [if_pos stem, List.append_nil]
    exact le_of_eq_of_le (congrArg Dotted.join whole) (String.le_refl _)

/-- A file has no lesser name without empty steps, below its base, than the name from the packages
around it. -/
theorem moduleName_le (tree : disk.IsTree) {path : Path} (isFile : disk.isFile path = true)
    {module : String} (stepped : ImportSearch.IsStepped module) {found root : Path}
    (leads : (ImportSearch.ofRoots [(ofPath disk path).base]).find? disk module =
      some (found, root))
    (same : (disk.absolute found).same (disk.absolute path) = true) :
    (ofPath disk path).module ≤ module := by
  obtain ⟨place, content, located, stands⟩ := Disk.locate_of_isFile isFile
  have isName := tree.isName stands
  obtain ⟨directory, name, rfl⟩ := (List.eq_nil_or_concat place).resolve_left (by
    rintro rfl
    cases stands)
  rw [List.concat_eq_append] at located stands isName
  rw [ofPath_of_locate located stands] at leads ⊢
  unfold atPlace at leads ⊢
  rw [Disk.absolute_of_locate located stands] at same
  obtain ⟨base, packages, rfl, named, -⟩ := exists_moduleName disk isName
  rw [named] at leads ⊢
  have baseName := (List.forall_mem_append.mp (List.forall_mem_append.mp isName).1).1
  obtain ⟨front, last, file, filled, least, form, foundLocated, more, foundStands⟩ :=
    ImportSearch.exists_place_of_find? baseName stepped leads
  rw [Disk.absolute_of_locate foundLocated foundStands] at same
  have place := Place.eq_of_same (tree.isName foundStands) isName same
  rw [List.append_assoc] at place
  exact String.le_trans (join_le_of_formsOf filled form (List.append_cancel_left place).symm) least

end BuildSource

/-! ### The modules of a file -/

/-- Whether a visit gave a module of the file that a path leads to. -/
def Visit.IsOf (disk : Disk) (path : Path) (visit : Visit) : Prop :=
  Analysis.IsModule visit ∧
    (disk.absolute visit.source.path).same (disk.absolute path) = true

/-- Whether a module is that of a visit which is of a file, and no such visit has a lesser name. -/
structure Module.IsLeastOf (disk : Disk) (path : Path) (visits : List Visit) (module : Module) :
    Prop where
  visited : ∃ visit ∈ visits, visit.IsOf disk path ∧
    visit.source.module = module.name ∧ visit.source.path = module.path
  least : ∀ visit ∈ visits, visit.IsOf disk path → module.name ≤ visit.source.module

/-- It is the module of one of these visits exactly where no other has a lesser name. -/
theorem Module.IsLeastOf.isOwn {disk : Disk} {path : Path} {visits : List Visit} {module : Module}
    (isLeast : module.IsLeastOf disk path visits)
    (distinct : (visits.map (·.source.module)).Nodup) {own : Visit} (member : own ∈ visits)
    (isOf : own.IsOf disk path) :
    module.name = own.source.module ∧ module.path = own.source.path ↔
      ∀ visit ∈ visits, visit.IsOf disk path → own.source.module ≤ visit.source.module := by
  constructor
  · rintro ⟨named, -⟩ visit among visitIsOf
    rw [← named]
    exact isLeast.least visit among visitIsOf
  · intro least
    obtain ⟨⟨visit, among, visitIsOf, named, placed⟩, lower⟩ := isLeast
    have same : visit.source.module = own.source.module := by
      refine String.le_antisymm ?_ (least visit among visitIsOf)
      rw [named]
      exact lower own member isOf
    rw [← named, ← placed, List.inj_on_of_nodup_map distinct among member same]
    exact ⟨rfl, rfl⟩

namespace Analysis

variable {disk : Disk} {options : BuildOptions} {sources : List BuildSource} {path : Path}

theorem isFile_of_read {usable : Option Cache} {source : BuildSource} {reading : Reading}
    (success : Analysis.read disk options usable source = .ok reading) :
    disk.isFile source.path = true := by
  obtain ⟨origin, given, -⟩ := read_cases success
  unfold Origin.ofSource Origin.sourceText Disk.readText at given
  unfold Disk.isFile
  cases found : disk.find source.path with
  | error fault =>
    rw [found] at given
    cases fault <;> cases given
  | ok entry =>
    rw [found] at given
    cases entry with
    | directory => cases given
    | file content => rfl

/-- Without a cache a module has the path of its source. -/
theorem path_of_read {source : BuildSource} {reading : Reading}
    (success : Analysis.read disk options none source = .ok reading) :
    reading.module.path = source.path := by
  cases given : Origin.ofSource disk options source with
  | error problem => cases (read_of_unreadable given).symm.trans success
  | ok origin =>
    rw [read_of_ofSource given] at success
    dsimp only [Option.bind_none] at success
    cases lowered : origin.lower source.module with
    | error problem =>
      rw [lowered] at success
      cases success
    | ok module =>
      rw [lowered] at success
      cases success
      exact (Origin.path_of_lower lowered).trans (Origin.path_of_ofSource given)

/-- The modules of a build without a cache, linked. -/
def linkedModules (disk : Disk) (options : BuildOptions) (sources : List BuildSource) : ModuleSet :=
  ((ofProgress options.followImports (visitUsing disk options none sources)).modules.link
    NameMap.empty).1

/-- A linked module is what some visit gave. -/
theorem exists_visit_of_linkedModules {name : String} {module : Module}
    (found : (linkedModules disk options sources).get? name = some module) :
    ∃ visit ∈ (visitUsing disk options none sources).visits, IsModule visit ∧
      visit.source.module = name ∧ module.name = name ∧ module.path = visit.source.path := by
  rw [linkedModules, ModuleSet.get?_link, Option.map_eq_some_iff] at found
  obtain ⟨before, stored, rfl⟩ := found
  rw [modules_ofProgress] at stored
  obtain ⟨member, named⟩ := ModuleSet.of_get?_ofModules stored
  obtain ⟨reading, read, rfl⟩ := List.mem_map.mp member
  obtain ⟨visit, visited, kept⟩ := List.mem_filterMap.mp read
  have outcome : visit.outcome = .ok reading := by
    cases outcome : visit.outcome with
    | error problem =>
      rw [outcome] at kept
      cases kept
    | ok other =>
      rw [outcome] at kept
      exact congrArg _ (Option.some.inj kept)
  have success := (faithful_visitAll sources visit visited).symm.trans outcome
  rw [Module.link_eq]
  exact ⟨visit, visited, ⟨reading, outcome⟩, (name_of_read success).symm.trans named, named,
    path_of_read success⟩

/-- What a visit gave is a linked module. -/
theorem exists_linked_of_visit (distinct : (sources.map (·.module)).Nodup) {visit : Visit}
    (member : visit ∈ (visitUsing disk options none sources).visits) (isModule : IsModule visit) :
    ∃ module, (linkedModules disk options sources).get? visit.source.module = some module ∧
      module.path = visit.source.path := by
  have named : AreNamed (visitUsing disk options none sources).visits := fun visit member reading
      outcome => name_of_read ((faithful_visitAll sources visit member).symm.trans outcome)
  have stored : visit.source.module ∈
      (ofProgress options.followImports (visitUsing disk options none sources)).modules.names :=
    (mem_names_ofProgress named).mpr ⟨visit, member, isModule, rfl⟩
  rw [NameMap.mem_names_iff, NameMap.contains, Option.isSome_iff_exists] at stored
  obtain ⟨before, stored⟩ := stored
  obtain ⟨module, linked⟩ : ∃ module,
      (linkedModules disk options sources).get? visit.source.module = some module := by
    rw [linkedModules, ModuleSet.get?_link, stored]
    exact ⟨_, rfl⟩
  obtain ⟨other, among, -, same, -, path⟩ := exists_visit_of_linkedModules linked
  rw [List.inj_on_of_nodup_map (nodup_visited disk options none distinct) among member same] at path
  exact ⟨module, linked, path⟩

theorem isLeastOf_of_ofPath? (distinct : (sources.map (·.module)).Nodup) {module : Module}
    (found : (linkedModules disk options sources).ofPath? disk path = some module) :
    module.IsLeastOf disk path (visitUsing disk options none sources).visits := by
  obtain ⟨name, stored, same, least⟩ := NameMap.find?_values_eq_some_iff.mp found
  obtain ⟨visit, member, isModule, visitName, named, place⟩ := exists_visit_of_linkedModules stored
  rw [place] at same
  refine ⟨⟨visit, member, ⟨isModule, same⟩, visitName.trans named.symm, place.symm⟩, ?_⟩
  intro other among isOf
  obtain ⟨otherModule, otherStored, otherPlace⟩ := exists_linked_of_visit distinct among isOf.1
  rw [named]
  exact least _ otherModule otherStored (by rw [otherPlace]; exact isOf.2)

theorem ofPath?_eq_none_iff (distinct : (sources.map (·.module)).Nodup) :
    (linkedModules disk options sources).ofPath? disk path = none ↔
      ∀ visit ∈ (visitUsing disk options none sources).visits, ¬ visit.IsOf disk path := by
  constructor
  · intro missing visit member isOf
    obtain ⟨module, stored, place⟩ := exists_linked_of_visit distinct member isOf.1
    have among : module ∈ (linkedModules disk options sources).values :=
      List.mem_map_of_mem (f := fun entry => entry.2) (NameMap.mem_entries_iff.mpr stored)
    refine List.find?_eq_none.mp missing module among ?_
    rw [place]
    exact isOf.2
  · intro none
    rw [← Option.not_isSome_iff_eq_none, Option.isSome_iff_exists]
    rintro ⟨module, found⟩
    obtain ⟨⟨visit, member, isOf, -⟩, -⟩ := isLeastOf_of_ofPath? distinct found
    exact none visit member isOf

/-! ### The names that a file is read under -/

/-- An input that cannot be read leads to nothing else. -/
theorem source_of_unreadable {source : BuildSource} {problem : Problem}
    (follows : options.followImports.follows = true)
    (failed : Analysis.read disk options none source = .error problem) {visit : Visit}
    (member : visit ∈ (visitUsing disk options none [source]).visits) : visit.source = source := by
  have distinct : ([source].map (·.module)).Nodup := List.nodup_singleton _
  have valid := valid_visitUsing disk options none distinct
  have done := queue_visitUsing disk options none distinct
  have own : sourceOf? (ImportSearch.ofRoots ([source].map (·.base))) disk [source] source.module =
      some source := by
    rw [sourceOf?, find?_of_mem distinct List.mem_cons_self]
    rfl
  have closed : IsClosed (ImportSearch.ofRoots ([source].map (·.base))) disk
      (Analysis.read disk options none) [source] {source.module} := by
    refine ⟨fun input among => ?_, ?_⟩
    · rw [List.mem_singleton.mp among]
      rfl
    · rintro name rfl other ⟨file, reading, -, -, isFile, success, -⟩
      cases own.symm.trans isFile
      cases failed.symm.trans success
  have among : visit.source.module ∈ visited (visitUsing disk options none [source]) :=
    List.mem_map_of_mem member
  have named : visit.source.module = source.module := (valid.isLeast done follows).2 closed among
  have file := valid.files visit.source (List.mem_append_left _ (List.mem_map_of_mem member))
  rw [named, own] at file
  exact (Option.some.inj file).symm

/-- Whether the modules that were read import keys without empty steps only. -/
def AreStepped (visits : List Visit) : Prop :=
  ∀ visit ∈ visits, ∀ reading, visit.outcome = .ok reading →
    ∀ symbol ∈ reading.module.imports, ImportSearch.IsStepped symbol.target.key

/-- Where keys have no empty steps, the names that imports lead to have none. -/
theorem isStepped_of_mem (distinct : (sources.map (·.module)).Nodup)
    (stepped : AreStepped (visitUsing disk options none sources).visits) {visit : Visit}
    (member : visit ∈ (visitUsing disk options none sources).visits)
    (led : visit.source.module ∉ sources.map (·.module)) :
    ImportSearch.IsStepped visit.source.module := by
  have valid := valid_visitUsing disk options none distinct
  have done := queue_visitUsing disk options none distinct
  obtain ⟨other, among, reading, symbol, place, success, imported, same⟩ :=
    (valid.imports_of_mem done member).resolve_left led
  have outcome := (faithful_visitAll sources other among).trans success
  exact (stepped other among reading outcome symbol imported).front
    (ImportSearch.moduleOf?_eq_some_iff.mp same).2.front

/-- Where keys have no empty steps, no name that leads to a file is less than its own. -/
theorem module_le_of_isOf (tree : disk.IsTree) (isFile : disk.isFile path = true)
    (stepped : AreStepped (visitUsing disk options none [BuildSource.ofPath disk path]).visits)
    {visit : Visit}
    (member : visit ∈ (visitUsing disk options none [BuildSource.ofPath disk path]).visits)
    (isOf : visit.IsOf disk path) :
    (BuildSource.ofPath disk path).module ≤ visit.source.module := by
  have distinct : ([BuildSource.ofPath disk path].map (·.module)).Nodup := List.nodup_singleton _
  have valid := valid_visitUsing disk options none distinct
  rcases visited_source_cases valid member with input | ⟨led, found⟩
  · have same := congrArg BuildSource.module (List.mem_singleton.mp input)
    exact le_of_eq_of_le same.symm (String.le_refl _)
  · exact BuildSource.moduleName_le tree isFile (isStepped_of_mem distinct stepped member led) found
      isOf.2

theorem ofPath?_of_unreadable {source : BuildSource} {problem : Problem}
    (follows : options.followImports.follows = true)
    (failed : Analysis.read disk options none source = .error problem) :
    (linkedModules disk options [source]).ofPath? disk path = none := by
  have distinct : ([source].map (·.module)).Nodup := List.nodup_singleton _
  refine (ofPath?_eq_none_iff distinct).mpr fun visit member isOf => ?_
  obtain ⟨⟨reading, outcome⟩, -⟩ := isOf
  have read := (faithful_visitAll _ visit member).symm.trans outcome
  rw [source_of_unreadable follows failed member] at read
  cases failed.symm.trans read

/-- The module of a file that can be read has the least name that was read from the file. -/
theorem exists_ofPath? (tree : disk.IsTree) (isFile : disk.isFile path = true) {reading : Reading}
    (success : Analysis.read disk options none (BuildSource.ofPath disk path) = .ok reading) :
    let source := BuildSource.ofPath disk path
    let visits := (visitUsing disk options none [source]).visits
    ∃ module, (linkedModules disk options [source]).ofPath? disk path = some module ∧
      module.IsLeastOf disk path visits ∧
      (module.name = source.module ∧ module.path = source.path ↔
        ∀ visit ∈ visits, visit.IsOf disk path → source.module ≤ visit.source.module) ∧
      (AreStepped visits → module.name = source.module ∧ module.path = source.path) := by
  intro source visits
  have distinct : ([source].map (·.module)).Nodup := List.nodup_singleton _
  have same : disk.absolute source.path = disk.absolute path := tree.absolute_absolute isFile
  have isOf : Visit.IsOf disk path ⟨source, false, Analysis.read disk options none source⟩ :=
    ⟨⟨reading, success⟩, by rw [same]; exact beq_self_eq_true _⟩
  have own := mem_visits_of_input disk options none (List.mem_singleton_self source)
  have some : (linkedModules disk options [source]).ofPath? disk path ≠ none := fun none =>
    (ofPath?_eq_none_iff distinct).mp none _ own isOf
  obtain ⟨module, found⟩ := Option.ne_none_iff_exists'.mp some
  have isLeast := isLeastOf_of_ofPath? distinct found
  have isOwn := isLeast.isOwn (nodup_visited disk options none distinct) own isOf
  exact ⟨module, found, isLeast, isOwn, fun stepped => isOwn.mpr fun visit member isOf =>
    module_le_of_isOf tree isFile stepped member isOf⟩

end Analysis

/-! ### Lookups -/

namespace Build

open Analysis (linkedModules visitUsing AreStepped)

variable {disk : Disk} {options : BuildOptions} {path : Path}

/-- A lookup without a cache gives a linked module of the path, and leaves the disk as it is. -/
theorem run_lookup_of_collect (valid : options.validate = .ok ())
    (silent : options.followImports = .silent) (plain : options.incremental = false)
    {sources : List BuildSource} {missing : List Failure}
    (collected : BuildSource.collect disk options.exclude [path] = .ok (sources, missing)) :
    (lookup .standard options path).run disk =
      (.ok ((linkedModules disk options sources).ofPath? disk path), disk) := by
  have ran := run_of_reading (List.cons_ne_nil path []) valid collected
    (reading_plain plain sources disk)
  rw [silent, conclude_silent] at ran
  unfold lookup
  rw [Work.run_bind_ok ran]
  rw [linkedModules, silent]
  rfl

/-- The only source of a file is the file. -/
theorem sources_of_isFile {patterns : List GlobPattern} (isFile : disk.isFile path = true) :
    BuildSource.firstOfEach []
      ((BuildSource.expand disk patterns [path]).1.map (BuildSource.ofPath disk)) =
        [BuildSource.ofPath disk path] := by
  unfold BuildSource.expand
  simp [Disk.isDirectory_of_isFile isFile, isFile, BuildSource.firstOfEach]

/-- No file is read at a path that leads to a directory or nowhere. -/
theorem not_isOf_of_not_isFile (tree : disk.IsTree) {patterns : List GlobPattern}
    (notFile : disk.isFile path = false) {visit : Visit}
    (member : visit ∈ (visitUsing disk options none (BuildSource.firstOfEach []
      ((BuildSource.expand disk patterns [path]).1.map (BuildSource.ofPath disk)))).visits) :
    ¬ visit.IsOf disk path := by
  rintro ⟨⟨reading, outcome⟩, same⟩
  cases directory : disk.isDirectory path with
  | false =>
    have nothing : (BuildSource.expand disk patterns [path]).1 = [] := by
      unfold BuildSource.expand
      simp [directory, notFile]
    rw [nothing, List.map_nil, BuildSource.firstOfEach, Analysis.visitUsing_nil] at member
    cases member
  | true =>
    obtain ⟨place, located, stands⟩ := BuildSource.place_of_isDirectory directory
    have success := (Analysis.faithful_visitAll _ visit member).symm.trans outcome
    obtain ⟨other, content, otherLocated, otherStands⟩ :=
      Disk.locate_of_isFile (Analysis.isFile_of_read success)
    rw [Disk.absolute_of_locate located stands,
      Disk.absolute_of_locate otherLocated otherStands] at same
    rw [Place.eq_of_same (tree.isName otherStands) (tree.isName stands) same] at otherStands
    cases stands.symm.trans otherStands

/-- The lookup of a path without a cache, where problems are passed over in silence, gives nothing
where the path does not lead to a file or the file cannot be read, and else a module of the file.
Of those that were read from the file it has the least name. This is the own name of the file where
none of the others is less, and so where no key that is imported has an empty step. -/
theorem run_lookup (tree : disk.IsTree) (valid : options.validate = .ok ())
    (silent : options.followImports = .silent) (plain : options.incremental = false)
    (path : Path) :
    let source := BuildSource.ofPath disk path
    let visits := (visitUsing disk options none [source]).visits
    ∃ found, (lookup .standard options path).run disk = (.ok found, disk) ∧
      (disk.isFile path = false → found = none) ∧
      (disk.isFile path = true →
        (∀ problem, Analysis.read disk options none source = .error problem → found = none) ∧
        ∀ reading, Analysis.read disk options none source = .ok reading →
          ∃ module, found = some module ∧ module.IsLeastOf disk path visits ∧
            (module.name = source.module ∧ module.path = source.path ↔
              ∀ visit ∈ visits, visit.IsOf disk path → source.module ≤ visit.source.module) ∧
            (AreStepped visits → module.name = source.module ∧ module.path = source.path)) := by
  intro source visits
  obtain ⟨patterns, parsed⟩ := exists_patterns_of_validate valid
  have ran := run_lookup_of_collect valid silent plain
    (BuildSource.collect_eq_ok_iff.mpr ⟨patterns, parsed, rfl, rfl⟩ :
      BuildSource.collect disk options.exclude [path] = _)
  have distinct := (BuildSource.nodup_firstOfEach []
    ((BuildSource.expand disk patterns [path]).1.map (BuildSource.ofPath disk))).1
  refine ⟨_, ran, fun notFile => ?_, fun isFile => ?_⟩
  · exact (Analysis.ofPath?_eq_none_iff distinct).mpr fun visit member =>
      not_isOf_of_not_isFile tree notFile member
  · rw [sources_of_isFile isFile]
    have follows : options.followImports.follows = true := by
      rw [silent]
      rfl
    exact ⟨fun problem failed => Analysis.ofPath?_of_unreadable follows failed,
      fun reading success => Analysis.exists_ofPath? tree isFile success⟩

/-- Options under which problems are passed over in silence and nothing is cached. -/
def quietOptions : BuildOptions :=
  { BuildOptions.default with followImports := .silent, incremental := false, exclude := [] }

/-- A disk with a package that imports its own file. -/
def selfDisk : Disk where
  entries := [(["pkg"], .directory),
    (["pkg", "__init__.py"], .file (.text "import pkg.__init__\n"))]
  home := []

/-- The file is read under two names, and is found under its own. -/
theorem run_lookup_self :
    let source := BuildSource.ofPath selfDisk ⟨"pkg/__init__.py"⟩
    Analysis.visited (visitUsing selfDisk quietOptions none [source]) = ["pkg", "pkg.__init__"] ∧
      ∃ module, (lookup .standard quietOptions ⟨"pkg/__init__.py"⟩).run selfDisk =
          (.ok (some module), selfDisk) ∧
        module.name = "pkg" ∧ module.path = ⟨"/pkg/__init__.py"⟩ := by
  intro source
  have isSource : source = ⟨⟨"/pkg/__init__.py"⟩, "pkg", ⟨"/"⟩⟩ := by decide +kernel
  have names : Analysis.visited (visitUsing selfDisk quietOptions none [source]) =
      ["pkg", "pkg.__init__"] := by
    decide +kernel
  obtain ⟨found, ran, -, read⟩ :=
    run_lookup (⟨by decide, by decide, by decide⟩ : selfDisk.IsTree)
      (rfl : quietOptions.validate = .ok ()) rfl rfl ⟨"pkg/__init__.py"⟩
  have isRead : (Analysis.read selfDisk quietOptions none source).toOption.isSome = true := by
    decide +kernel
  cases success : Analysis.read selfDisk quietOptions none source with
  | error problem =>
    rw [success] at isRead
    cases isRead
  | ok reading =>
    obtain ⟨module, rfl, -, isOwn, -⟩ := (read (by decide)).2 reading success
    obtain ⟨named, placed⟩ := isOwn.mpr fun visit member _ => by
      have among : visit.source.module ∈ ["pkg", "pkg.__init__"] :=
        names ▸ List.mem_map_of_mem member
      have least : ∀ name ∈ ["pkg", "pkg.__init__"], "pkg" ≤ name := by decide
      exact le_of_eq_of_le (congrArg BuildSource.module isSource) (least _ among)
    exact ⟨names, module, ran, named.trans (congrArg BuildSource.module isSource),
      placed.trans (congrArg BuildSource.path isSource)⟩

/-- A disk with a file that imports a name with a comment in it. -/
def commentDisk : Disk where
  entries := [(["x"], .directory), (["x", "__init__.py"], .file (.text "")),
    (["x", "a # "], .directory), (["x", "a # ", "__init__.py"], .file (.text "")),
    (["x", "a # ", "zz\n"], .directory), (["x", "a # ", "zz\n", "__init__.py"], .file (.text "")),
    (["x", "a # ", "zz\n", "b.py"], .file (.text "from x import (a # ..zz\n.b)\n"))]
  home := []

/-- The import has an empty step where the comment has two dots, and so leads to the same file
under a lesser name. The lookup gives the module of this name. -/
theorem run_lookup_comment :
    (BuildSource.ofPath commentDisk ⟨"x/a # /zz\n/b.py"⟩).module = "x.a # .zz\n.b" ∧
      ((lookup .standard quietOptions ⟨"x/a # /zz\n/b.py"⟩).run commentDisk).1.toOption.map
        (fun found => found.map fun module => (module.name, module.path.text)) =
          some (some ("x.a # ..zz\n.b", "/x/a # //zz\n/b.py")) := by
  decide +kernel

end Build

end Declarations
