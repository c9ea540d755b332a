/-
This file proves that collected sources can be imported by their names. A directory is
listed in order, so of two files for one module the source comes before its stub, and only
the first is collected. An import finds the file that was collected, except that a file
beside a package comes before the package, and a source that was left out before its stub.
-/

import Declarations.Proofs.Build.Naming

namespace Declarations

open Declarations.Path (IsName splitName)

/-! ### The order of a listing -/

namespace Disk

variable {disk : Disk} {place first second : Place}

theorem precedes_total : ∀ first second, (precedes first second || precedes second first) = true
  | [], _ => rfl
  | _ :: _, [] => rfl
  | name :: names, other :: others => by
    have rest := precedes_total names others
    unfold precedes
    rcases Std.lt_trichotomy name other with below | rfl | above
    · simp [below]
    · simpa using rest
    · simp [above]

theorem precedes_trans : ∀ first second third,
    precedes first second = true → precedes second third = true → precedes first third = true
  | [], _, _, _, _ => rfl
  | _ :: _, [], _, before, _ => nomatch before
  | _ :: _, _ :: _, [], _, before => nomatch before
  | name :: names, other :: others, last :: lasts, before, after => by
    unfold precedes at before after ⊢
    simp only [Bool.or_eq_true, decide_eq_true_eq, Bool.and_eq_true, beq_iff_eq] at before after ⊢
    rcases before with below | ⟨rfl, inside⟩
    · rcases after with above | ⟨rfl, -⟩
      · exact .inl (String.lt_trans below above)
      · exact .inl below
    · rcases after with above | ⟨rfl, further⟩
      · exact .inl above
      · exact .inr ⟨rfl, precedes_trans names others lasts inside further⟩

theorem pairwise_filesBelow (disk : Disk) (place : Place) :
    (disk.filesBelow place).Pairwise fun first second => precedes first second = true :=
  List.pairwise_mergeSort precedes_trans precedes_total _

theorem mem_filesBelow {names : Place} :
    names ∈ disk.filesBelow place ↔
      ∃ content, (place ++ names, DiskEntry.file content) ∈ disk.entries := by
  unfold filesBelow
  rw [List.mem_mergeSort, List.mem_filterMap]
  constructor
  · rintro ⟨⟨found, entry⟩, member, same⟩
    cases entry with
    | directory => cases same
    | file content =>
      rw [List.isPrefixOf?_eq_some_iff_append_eq.mp same]
      exact ⟨content, member⟩
  · rintro ⟨content, member⟩
    exact ⟨_, member, List.isPrefixOf?_eq_some_iff_append_eq.mpr rfl⟩

theorem precedes_append (front first second : Place) :
    precedes (front ++ first) (front ++ second) = precedes first second := by
  induction front with
  | nil => rfl
  | cons name rest inductionHypothesis =>
    rw [List.cons_append, List.cons_append, precedes, inductionHypothesis]
    simp

theorem not_append_lt (text more : List Char) : ¬ text ++ more < text := by
  induction text with
  | nil => exact List.not_lt_nil _
  | cons character rest inductionHypothesis =>
    rw [List.cons_append, List.cons_lt_cons_iff, not_or, not_and]
    exact ⟨Char.lt_irrefl _, fun _ => inductionHypothesis⟩

/-- A stub does not come before the source that it stands for. -/
theorem not_precedes_stub (front : Place) (stem : String) :
    precedes (front ++ [stem ++ "." ++ "pyi"]) (front ++ [stem ++ "." ++ "py"]) = false := by
  have longer : (stem ++ "." ++ "pyi").toList = (stem ++ "." ++ "py").toList ++ ['i'] := by simp
  have notBelow : ¬ stem ++ "." ++ "pyi" < stem ++ "." ++ "py" := by
    rw [String.lt_iff, longer]
    exact not_append_lt _ _
  have different : stem ++ "." ++ "pyi" ≠ stem ++ "." ++ "py" := by
    intro same
    rw [same] at longer
    simp at longer
  rw [precedes_append, precedes, decide_eq_false notBelow, beq_false_of_ne different]
  rfl

end Disk

/-! ### Files of inputs -/

namespace BuildSource

variable {disk : Disk} {exclude : List String} {patterns : List GlobPattern}
  {inputs : List Path} {sources : List BuildSource} {missing : List Failure}

theorem expand_of_directories (directories : ∀ input ∈ inputs, disk.isDirectory input = true) :
    expand disk patterns inputs = (inputs.flatMap (filesOf disk patterns), []) := by
  unfold expand
  dsimp only
  rw [List.map_congr_left fun input member => if_pos (directories input member), List.flatMap_map,
    List.flatMap_map]
  simp

theorem collect_eq_ok_iff : collect disk exclude inputs = .ok (sources, missing) ↔
    ∃ patterns, exclude.mapM GlobPattern.parse = .ok patterns ∧
      sources = firstOfEach [] ((expand disk patterns inputs).1.map (ofPath disk)) ∧
      missing = (expand disk patterns inputs).2 := by
  unfold collect
  cases exclude.mapM GlobPattern.parse with
  | error error => simp
  | ok patterns => simp [eq_comm]

/-- A source is kept where no earlier one has its name. -/
theorem of_mem_firstOfEach {seen : List String} {source : BuildSource}
    (member : source ∈ firstOfEach seen sources) :
    source.module ∉ seen ∧ ∃ before after, sources = before ++ source :: after ∧
      ∀ other ∈ before, other.module ≠ source.module := by
  induction sources generalizing seen with
  | nil => cases member
  | cons first rest inductionHypothesis =>
    unfold firstOfEach at member
    split at member
    next known =>
      obtain ⟨unseen, before, after, rfl, others⟩ := inductionHypothesis member
      refine ⟨unseen, first :: before, after, rfl, List.forall_mem_cons.mpr ⟨?_, others⟩⟩
      exact fun same => unseen (same ▸ known)
    next new =>
      rcases List.mem_cons.mp member with rfl | later
      · exact ⟨new, [], rest, rfl, nofun⟩
      · obtain ⟨unseen, before, after, rfl, others⟩ := inductionHypothesis later
        rw [List.mem_cons, not_or] at unseen
        exact ⟨unseen.2, first :: before, after, rfl,
          List.forall_mem_cons.mpr ⟨fun same => unseen.1 same.symm, others⟩⟩

/-- What stands in a joined list stands in one of the lists. -/
theorem split_of_flatMap {α β : Type} {f : α → List β} {values : List α} {before after : List β}
    {found : β} (same : values.flatMap f = before ++ found :: after) :
    ∃ value ∈ values, ∃ front back, f value = front ++ found :: back ∧ front ⊆ before := by
  induction values generalizing before with
  | nil => simp at same
  | cons value rest inductionHypothesis =>
    rw [List.flatMap_cons, List.append_eq_append_iff] at same
    rcases same with ⟨between, longer, behind⟩ | ⟨between, longer, behind⟩
    · obtain ⟨other, member, front, back, here, inside⟩ := inductionHypothesis behind
      exact ⟨other, List.mem_cons_of_mem _ member, front, back, here,
        fun _ among => longer ▸ List.mem_append_right _ (inside among)⟩
    · cases between with
      | nil =>
        obtain ⟨other, member, front, back, here, inside⟩ := @inductionHypothesis [] behind.symm
        exact ⟨other, List.mem_cons_of_mem _ member, front, back, here,
          fun _ among => nomatch inside among⟩
      | cons next between =>
        obtain ⟨rfl, -⟩ := List.cons.inj behind
        exact ⟨value, List.mem_cons_self, before, between, longer, List.Subset.refl _⟩

/-- Whether the file of some names below an input is read. -/
def IsRead (patterns : List GlobPattern) (input : Path) (names : List String) : Prop :=
  isSourceFile (names.foldl Path.join input) = true ∧ isExcluded patterns names = false

/-- A collected source is a file that is listed in an input, and those that are listed before it
have other names. -/
theorem listed_of_mem_collect (directories : ∀ input ∈ inputs, disk.isDirectory input = true)
    (success : collect disk exclude inputs = .ok (sources, missing)) {source : BuildSource}
    (member : source ∈ sources) :
    ∃ patterns, exclude.mapM GlobPattern.parse = .ok patterns ∧ ∃ input ∈ inputs,
      ∃ before names after, disk.filesIn input = before ++ names :: after ∧
        IsRead patterns input names ∧ source = ofPath disk (names.foldl Path.join input) ∧
        ∀ earlier ∈ before, IsRead patterns input earlier →
          (ofPath disk (earlier.foldl Path.join input)).module ≠ source.module := by
  obtain ⟨patterns, parsed, rfl, -⟩ := collect_eq_ok_iff.mp success
  refine ⟨patterns, parsed, ?_⟩
  obtain ⟨-, before, after, whole, others⟩ := of_mem_firstOfEach member
  rw [expand_of_directories directories, List.map_flatMap] at whole
  obtain ⟨input, among, front, back, here, inside⟩ := split_of_flatMap whole
  obtain ⟨files, rest, split, rfl, ends⟩ := List.map_eq_append_iff.mp here
  obtain ⟨path, more, rfl, rfl, -⟩ := List.map_eq_cons_iff.mp ends
  obtain ⟨listed, behind, listing, rfl, ends⟩ := List.filterMap_eq_append_iff.mp split
  obtain ⟨skipped, names, last, rfl, unread, isPath, -⟩ := List.filterMap_eq_cons_iff.mp ends
  have readIf (names : List String) : IsRead patterns input names ↔
      (isSourceFile (names.foldl Path.join input) && !isExcluded patterns names) = true := by
    simp [IsRead]
  dsimp only at isPath unread
  split at isPath
  next read =>
    cases isPath
    refine ⟨input, among, listed ++ skipped, names, last, by rw [listing, List.append_assoc],
      (readIf names).mpr read, rfl, fun earlier earlierListed isRead => ?_⟩
    rcases List.mem_append.mp earlierListed with first | second
    · refine others _ (inside (List.mem_map_of_mem (List.mem_filterMap.mpr ⟨earlier, first, ?_⟩)))
      rw [if_pos ((readIf earlier).mp isRead)]
    · have none := unread earlier second
      rw [if_pos ((readIf earlier).mp isRead)] at none
      cases none
  next => cases isPath

/-! ### Importing what was collected -/

/-- Whether a pattern leaves a file out that is listed in an input. -/
def IsLeftOut (disk : Disk) (exclude : List String) (inputs : List Path) (path : Path) : Prop :=
  ∃ patterns, exclude.mapM GlobPattern.parse = .ok patterns ∧ ∃ input ∈ inputs,
    ∃ names ∈ disk.filesIn input, disk.absolute (names.foldl Path.join input) = path ∧
      isExcluded patterns names = true

theorem fileName?_foldl_join {name : String} (isName : IsName name) (path : Path)
    (names : List String) : ((names ++ [name]).foldl Path.join path).fileName? = some name := by
  obtain ⟨front, isOpen, text⟩ := Path.exists_toList_join (names.foldl Path.join path) name
  rw [List.foldl_append]
  have written : ((names.foldl Path.join path).join name).text.toList =
      front ++ (name.toList ++ List.replicate 0 '/') := by
    rw [text, List.replicate_zero, List.append_nil]
  exact Path.fileName?_of_toList isOpen isName written

/-- Files beside each other have the same module name where they have the same stem. -/
theorem moduleName_beside {place : Place} {name other : String}
    (isName : ∀ part ∈ place ++ [name], IsName part)
    (isOther : ∀ part ∈ place ++ [other], IsName part)
    (same : (splitName name).1 = (splitName other).1) :
    moduleName disk (Place.path (place ++ [name])) =
      moduleName disk (Place.path (place ++ [other])) := by
  unfold moduleName
  rw [Place.stem?_path place (isName name (by simp)),
    Place.stem?_path place (isOther other (by simp)), same, Place.parent?_path isName,
    Place.parent?_path isOther,
    Place.length_components_path isName, Place.length_components_path isOther, List.length_append,
    List.length_append]
  rfl

theorem extension_of_isSourceFile {name : String} (isName : IsName name) (path : Path)
    (names : List String)
    (isSource : isSourceFile ((names ++ [name]).foldl Path.join path) = true) :
    ∃ stem extension, splitName name = (stem, some extension) ∧
      (extension = "py" ∨ extension = "pyi") := by
  unfold isSourceFile Path.extension? at isSource
  rw [fileName?_foldl_join isName, Option.bind_some] at isSource
  cases split : splitName name with
  | mk stem extension =>
    rw [split] at isSource
    cases extension with
    | none => cases isSource
    | some extension => exact ⟨stem, extension, rfl, by simpa using isSource⟩

theorem place_of_isDirectory {path : Path} (directory : disk.isDirectory path = true) :
    ∃ place, disk.locate path = .ok place ∧ disk.entry? place = some .directory := by
  unfold Disk.isDirectory at directory
  split at directory
  next found => exact Disk.locate_of_find found
  next => cases directory

theorem filesIn_of_locate {path : Path} {place : Place} (located : disk.locate path = .ok place) :
    disk.filesIn path = disk.filesBelow place := by
  unfold Disk.filesIn
  rw [located]

/-- The files of a directory are listed so that a source comes before its stub. -/
theorem mem_before_of_stub {place front : Place} {stem : String} (filled : stem ≠ "")
    {before after : List Place}
    (listing : disk.filesBelow place = before ++ (front ++ [stem ++ "." ++ "pyi"]) :: after)
    (listed : front ++ [stem ++ "." ++ "py"] ∈ disk.filesBelow place) :
    front ++ [stem ++ "." ++ "py"] ∈ before := by
  rw [listing, List.mem_append, List.mem_cons] at listed
  rcases listed with earlier | same | later
  · exact earlier
  · have split := congrArg splitName (List.singleton_inj.mp (List.append_cancel_left same))
    rw [splitName_of_isSource filled (.inl rfl), splitName_of_isSource filled (.inr rfl)] at split
    exact absurd split (by simp)
  · have ordered := disk.pairwise_filesBelow place
    rw [listing, List.pairwise_append, List.pairwise_cons] at ordered
    have wrong := ordered.2.1.1 _ later
    rw [Disk.not_precedes_stub] at wrong
    cases wrong

/-- A stub is collected where the source that it stands for is left out. -/
theorem isLeftOut_of_stub (tree : disk.IsTree)
    (parsed : exclude.mapM GlobPattern.parse = .ok patterns) {input : Path} (among : input ∈ inputs)
    {place front : Place} (located : disk.locate input = .ok place)
    (directory : disk.entry? place = some .directory) {stem : String} (filled : stem ≠ "")
    {content : FileContent} {before after : List Place}
    (listing : disk.filesBelow place = before ++ (front ++ [stem ++ "." ++ "pyi"]) :: after)
    (others : ∀ earlier ∈ before, IsRead patterns input earlier →
      (ofPath disk (earlier.foldl Path.join input)).module ≠
        (atPlace disk (place ++ front ++ [stem ++ "." ++ "pyi"])).module)
    (stub : disk.entry? (place ++ front ++ [stem ++ "." ++ "pyi"]) = some (.file content))
    (rival : disk.isFile (Place.path (place ++ front ++ [stem ++ "." ++ "py"])) = true) :
    IsLeftOut disk exclude inputs (Place.path (place ++ front ++ [stem ++ "." ++ "py"])) := by
  have stubName := tree.isName stub
  have lastName : IsName (stem ++ "." ++ "py") :=
    Path.isName_extended filled (stubName (stem ++ "." ++ "pyi") (by simp)).plain_stem (by decide)
      (by decide)
  have rivalName : ∀ name ∈ place ++ front ++ [stem ++ "." ++ "py"], IsName name :=
    List.forall_mem_append.mpr ⟨(List.forall_mem_append.mp stubName).1, by simpa using lastName⟩
  obtain ⟨other, stands⟩ := (tree.isFile_path_iff rivalName).mp rival
  have listed : front ++ [stem ++ "." ++ "py"] ∈ disk.filesBelow place :=
    Disk.mem_filesBelow.mpr ⟨other, Disk.mem_of_stands_file (List.append_assoc _ _ _ ▸ stands)⟩
  have leads : disk.locate ((front ++ [stem ++ "." ++ "py"]).foldl Path.join input) =
      .ok (place ++ front ++ [stem ++ "." ++ "py"]) := by
    rw [List.append_assoc] at stands ⊢
    exact tree.locate_foldl_join located directory stands
  refine ⟨patterns, parsed, input, among, front ++ [stem ++ "." ++ "py"], ?_,
    Disk.absolute_of_locate leads stands, ?_⟩
  · rwa [filesIn_of_locate located]
  · have isSource :
        isSourceFile ((front ++ [stem ++ "." ++ "py"]).foldl Path.join input) = true := by
      unfold isSourceFile Path.extension?
      rw [fileName?_foldl_join lastName, Option.bind_some, splitName_of_isSource filled (.inl rfl)]
      rfl
    by_contra notExcluded
    have sameStem : (splitName (stem ++ "." ++ "py")).1 = (splitName (stem ++ "." ++ "pyi")).1 := by
      rw [splitName_of_isSource filled (.inl rfl), splitName_of_isSource filled (.inr rfl)]
    have sameName : moduleName disk _ = moduleName disk _ :=
      moduleName_beside rivalName stubName sameStem
    refine others _ (mem_before_of_stub filled listing listed)
      ⟨isSource, Bool.not_eq_true _ ▸ notExcluded⟩ ?_
    rw [ofPath_of_locate leads stands]
    exact congrArg Prod.fst sameName

/-- A file of a tree is found by its name, if it has one. -/
theorem HasName.isFound {place : Place} {stem extension : String} {content : FileContent}
    (hasName : HasName disk (atPlace disk (place ++ [stem ++ "." ++ extension])))
    (tree : disk.IsTree) (named : disk.HasModuleNames) (filled : stem ≠ "")
    (isSource : extension = "py" ∨ extension = "pyi")
    (stands : disk.entry? (place ++ [stem ++ "." ++ extension]) = some (.file content)) :
    IsFound disk (atPlace disk (place ++ [stem ++ "." ++ extension])) := by
  have isName := tree.isName stands
  by_cases package : stem = "__init__"
  · subst package
    have above : ∀ name ∈ place, IsName name := (List.forall_mem_append.mp isName).1
    have stem : (atPlace disk (place ++ ["__init__" ++ "." ++ extension])).path.stem? =
        some "__init__" := by
      unfold atPlace
      rw [Place.stem?_path place (isName _ (by simp)), splitName_of_isSource filled isSource]
    obtain ⟨directory, parent, notRoot, packageFile⟩ := hasName stem
    unfold atPlace at parent
    rw [Place.parent?_path isName] at parent
    cases parent
    rw [Place.join_path_name above isName_packageFile] at packageFile
    refine isFound_package tree named isName isSource (fun root => notRoot ?_) packageFile
    rw [root]
    rfl
  · exact isFound_plain tree named stands isSource package filled

/-- Of the files of a tree, only the stub of a package and the file of the root have no name. -/
theorem hasName_atPlace {place : Place} {stem extension : String} {content : FileContent}
    (tree : disk.IsTree) (filled : stem ≠ "") (isSource : extension = "py" ∨ extension = "pyi")
    (stands : disk.entry? (place ++ [stem ++ "." ++ extension]) = some (.file content))
    (notStub : stem ++ "." ++ extension ≠ "__init__.pyi")
    (notRoot : Place.path (place ++ [stem ++ "." ++ extension]) ≠ ⟨"/__init__.py"⟩) :
    HasName disk (atPlace disk (place ++ [stem ++ "." ++ extension])) := by
  have isName := tree.isName stands
  have above : ∀ name ∈ place, IsName name := (List.forall_mem_append.mp isName).1
  intro package
  unfold atPlace at package ⊢
  rw [Place.stem?_path place (isName _ (by simp)), splitName_of_isSource filled isSource] at package
  cases package
  rcases isSource with rfl | rfl
  · refine ⟨place.path, Place.parent?_path isName, fun root => notRoot ?_, ?_⟩
    · have names := congrArg Path.names root
      rw [Place.names_path above] at names
      rw [names]
      rfl
    · rw [Place.join_path_name above isName_packageFile]
      exact (tree.isFile_path_iff isName).mpr ⟨content, stands⟩
  · exact absurd rfl notStub

/-- An import of a collected source by its name finds the file that was collected, or a rival of
it if one is there; and where the rival of a stub is there, it was left out. -/
theorem isFound_of_collect (tree : disk.IsTree) (named : disk.HasModuleNames)
    (directories : ∀ input ∈ inputs, disk.isDirectory input = true)
    (success : collect disk exclude inputs = .ok (sources, missing)) :
    ∀ source ∈ sources,
      (source.path.fileName? ≠ some "__init__.pyi" → source.path ≠ ⟨"/__init__.py"⟩ →
        HasName disk source) ∧
      (HasName disk source → IsFound disk source) ∧
      (source.path.extension? = some "pyi" → disk.isFile (source.path.withExtension "py") = true →
        IsLeftOut disk exclude inputs (source.path.withExtension "py")) := by
  intro source member
  obtain ⟨patterns, parsed, input, among, before, names, after, listing, ⟨isSource, kept⟩, rfl,
    others⟩ := listed_of_mem_collect directories success member
  obtain ⟨place, located, directory⟩ := place_of_isDirectory (directories input among)
  rw [filesIn_of_locate located] at listing
  have listed : names ∈ disk.filesBelow place := by
    rw [listing]
    exact List.mem_append_right _ List.mem_cons_self
  obtain ⟨content, entry⟩ := Disk.mem_filesBelow.mp listed
  have stands := tree.stands_of_mem entry
  have whole := ofPath_of_locate (tree.locate_foldl_join located directory stands) stands
  rw [whole] at others ⊢
  rcases List.eq_nil_or_concat names with rfl | ⟨front, last, rfl⟩
  · rw [List.append_nil] at stands
    cases directory.symm.trans stands
  rw [List.concat_eq_append] at listing isSource stands others ⊢
  rw [← List.append_assoc] at stands others ⊢
  have lastName : IsName last := tree.isName stands last (by simp)
  obtain ⟨stem, extension, split, isPython⟩ :=
    extension_of_isSourceFile lastName input front isSource
  obtain ⟨rfl, filled⟩ := Path.eq_of_splitName split
  refine ⟨fun notStub notRoot => ?_, fun hasName => ?_, fun isStub rival => ?_⟩
  · unfold atPlace at notStub notRoot
    rw [Place.fileName?_path _ lastName] at notStub
    exact hasName_atPlace tree filled isPython stands (fun same => notStub (congrArg some same))
      notRoot
  · exact hasName.isFound tree named filled isPython stands
  · unfold atPlace at isStub rival ⊢
    rw [Place.extension?_path _ lastName, split] at isStub
    cases isStub
    rw [Place.withExtension_path _ lastName, split] at rival ⊢
    exact isLeftOut_of_stub tree parsed among located directory filled listing others stands rival

theorem filesIn_of_sorted {input : Path} {listing : List Place}
    (located : disk.locate input = .ok []) (sorted : disk.filesBelow [] = listing) :
    disk.filesIn input = listing :=
  (filesIn_of_locate located).trans sorted

theorem collect_of_filesOf {input : Path} {paths : List Path}
    (parsed : exclude.mapM GlobPattern.parse = .ok patterns)
    (directory : disk.isDirectory input = true) (files : filesOf disk patterns input = paths)
    (first : firstOfEach [] (paths.map (ofPath disk)) = sources) :
    collect disk exclude [input] = .ok (sources, []) := by
  have directories : ∀ other ∈ [input], disk.isDirectory other = true := by
    simpa using directory
  refine collect_eq_ok_iff.mpr ⟨patterns, parsed, ?_, ?_⟩
  · rw [expand_of_directories directories, List.flatMap_singleton, files, first]
  · rw [expand_of_directories directories]

/-- A disk with a package, a stub inside it, and a file of its name beside it. -/
def besideDisk : Disk :=
  ⟨[(["pkg"], .directory), (["pkg", "__init__.py"], .file (.text "")),
    (["pkg", "b.pyi"], .file (.text "")), (["pkg.py"], .file (.text ""))], []⟩

/-- The sources that are collected there. -/
def besideSources : List BuildSource :=
  [⟨⟨"/pkg/__init__.py"⟩, "pkg", ⟨"/"⟩⟩, ⟨⟨"/pkg/b.pyi"⟩, "pkg.b", ⟨"/"⟩⟩]

theorem collect_beside : collect besideDisk [] [⟨"."⟩] = .ok (besideSources, []) := by
  have sorted : besideDisk.filesBelow [] =
      [["pkg", "__init__.py"], ["pkg", "b.pyi"], ["pkg.py"]] :=
    List.mergeSort_of_pairwise (by decide)
  have files : filesOf besideDisk [] ⟨"."⟩ =
      [⟨"./pkg/__init__.py"⟩, ⟨"./pkg/b.pyi"⟩, ⟨"./pkg.py"⟩] := by
    unfold filesOf
    rw [filesIn_of_sorted rfl sorted]
    decide +kernel
  exact collect_of_filesOf rfl (by decide +kernel) files (by decide +kernel)

/-- The stub is found by its name, and for the package the file beside it. -/
theorem isFound_of_collect_beside :
    besideDisk.IsTree ∧ besideDisk.HasModuleNames ∧
      (∀ input ∈ [(⟨"."⟩ : Path)], besideDisk.isDirectory input = true) ∧
      collect besideDisk [] [⟨"."⟩] = .ok (besideSources, []) ∧
      ∀ source ∈ besideSources, IsFound besideDisk source := by
  have tree : besideDisk.IsTree := ⟨by decide, by decide, by decide⟩
  have named : besideDisk.HasModuleNames := ⟨by decide, by decide⟩
  have directories : ∀ input ∈ [(⟨"."⟩ : Path)], besideDisk.isDirectory input = true := by
    decide +kernel
  refine ⟨tree, named, directories, collect_beside, fun source member => ?_⟩
  have regular : ∀ source ∈ besideSources,
      source.path.fileName? ≠ some "__init__.pyi" ∧ source.path ≠ ⟨"/__init__.py"⟩ := by
    decide +kernel
  have found := isFound_of_collect tree named directories collect_beside source member
  exact found.2.1 (found.1 (regular source member).1 (regular source member).2)

/-- A disk with a source, its stub, and a package that is a stub only. -/
def stubDisk : Disk :=
  ⟨[(["m.py"], .file (.text "")), (["m.pyi"], .file (.text "")), (["stubs"], .directory),
    (["stubs", "__init__.pyi"], .file (.text ""))], []⟩

/-- The sources that are collected there when the source is left out. -/
def stubSources : List BuildSource :=
  [⟨⟨"/m.pyi"⟩, "m", ⟨"/"⟩⟩, ⟨⟨"/stubs/__init__.pyi"⟩, "", ⟨"/stubs"⟩⟩]

theorem collect_stubs : collect stubDisk ["m.py"] [⟨"."⟩] = .ok (stubSources, []) := by
  have sorted : stubDisk.filesBelow [] = [["m.py"], ["m.pyi"], ["stubs", "__init__.pyi"]] :=
    List.mergeSort_of_pairwise (by decide)
  have parsed : ["m.py"].mapM GlobPattern.parse = .ok ["m.py".toList.map .character] := by
    decide +kernel
  have files : filesOf stubDisk ["m.py".toList.map .character] ⟨"."⟩ =
      [⟨"./m.pyi"⟩, ⟨"./stubs/__init__.pyi"⟩] := by
    unfold filesOf
    rw [filesIn_of_sorted rfl sorted]
    decide +kernel
  exact collect_of_filesOf parsed (by decide +kernel) files (by decide +kernel)

/-- A disk with the file of a package in its root. -/
def rootDisk : Disk := ⟨[(["__init__.py"], .file (.text ""))], []⟩

theorem collect_root :
    collect rootDisk [] [⟨"."⟩] = .ok ([⟨⟨"/__init__.py"⟩, "", ⟨"/"⟩⟩], []) := by
  have sorted : rootDisk.filesBelow [] = [["__init__.py"]] :=
    List.mergeSort_of_pairwise (by decide)
  have files : filesOf rootDisk [] ⟨"."⟩ = [⟨"./__init__.py"⟩] := by
    unfold filesOf
    rw [filesIn_of_sorted rfl sorted]
    decide +kernel
  exact collect_of_filesOf rfl (by decide +kernel) files (by decide +kernel)

/-- A package is not found by its name where a file stands beside it, and a stub not where its
source was left out. The stub of a package and the file of the root have no name. -/
theorem find?_beside_package :
    (collect besideDisk [] [⟨"."⟩] = .ok (besideSources, []) ∧
      ⟨⟨"/pkg/__init__.py"⟩, "pkg", ⟨"/"⟩⟩ ∈ besideSources ∧
      (ImportSearch.ofRoots [⟨"/"⟩]).find? besideDisk "pkg" = some (⟨"/pkg.py"⟩, ⟨"/"⟩)) ∧
    (collect stubDisk ["m.py"] [⟨"."⟩] = .ok (stubSources, []) ∧
      ⟨⟨"/m.pyi"⟩, "m", ⟨"/"⟩⟩ ∈ stubSources ∧
      (ImportSearch.ofRoots [⟨"/"⟩]).find? stubDisk "m" = some (⟨"/m.py"⟩, ⟨"/"⟩) ∧
      ⟨⟨"/stubs/__init__.pyi"⟩, "", ⟨"/stubs"⟩⟩ ∈ stubSources) ∧
    collect rootDisk [] [⟨"."⟩] = .ok ([⟨⟨"/__init__.py"⟩, "", ⟨"/"⟩⟩], []) :=
  ⟨⟨collect_beside, by decide, by decide +kernel⟩,
    ⟨collect_stubs, by decide, by decide +kernel, by decide⟩, collect_root⟩

end BuildSource

end Declarations
