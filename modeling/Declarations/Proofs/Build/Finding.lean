/-
This file bounds the names of the modules that imports lead to. Every word of such a name
is a step down towards its file, so there are no more words than the disk is deep, and
names that can be imported are no longer than the limit on rounds takes them to be.
-/

import Declarations.Build.Analysis
import Declarations.Proofs.Build.Entries
import Declarations.Proofs.Disk.Paths
import Declarations.Proofs.Lowering.Keys
import Declarations.Proofs.Build.Reuse

namespace Declarations

open Disk (downs downs_append Descends)

variable {given limit depth : Nat} {name : String} {disk : Disk}

/-! ### The steps of a name -/

/-- The text of the path that a name leads to. -/
def steppedText (name : String) : List Char :=
  name.toList.map fun character => if character = '.' then '/' else character

theorem toList_relativePath (name : String) :
    (ImportSearch.relativePath name).toList = steppedText name :=
  String.toList_ofList

theorem steppedText_below (base name : String) :
    steppedText (Dotted.below base name) = steppedText base ++ '/' :: steppedText name := by
  unfold steppedText
  rw [Dotted.toList_below, List.map_append, List.map_cons]
  rfl

theorem dot_not_mem_steppedText (name : String) : '.' ∉ steppedText name := by
  intro member
  obtain ⟨character, -, same⟩ := List.mem_map.mp member
  split at same
  · cases same
  next other => exact other same

theorem mem_intercalate {character : Char} {between part : List Char} (inside : character ∈ part) :
    ∀ {parts : List (List Char)}, part ∈ parts → character ∈ between.intercalate parts
  | [only], member => by
    rw [List.intercalate_singleton, ← List.mem_singleton.mp member]
    exact inside
  | first :: second :: rest, member => by
    rw [List.intercalate_cons_cons, List.mem_append]
    rcases List.mem_cons.mp member with rfl | later
    · exact .inl (List.mem_append_left _ inside)
    · exact .inr (mem_intercalate inside later)

/-- The pieces of a text have its characters only. -/
theorem Path.mem_of_mem_split {text : List Char} {piece : String} {character : Char}
    (member : piece ∈ Path.split text) (inside : character ∈ piece.toList) : character ∈ text := by
  obtain ⟨part, among, rfl⟩ := List.mem_map.mp member
  rw [String.toList_ofList] at inside
  have whole : character ∈ ['/'].intercalate (text.splitOn '/') := mem_intercalate inside among
  rwa [List.intercalate_splitOn '/'] at whole

theorem up_not_mem_split (name : String) : ".." ∉ Path.split (steppedText name) := fun member =>
  dot_not_mem_steppedText name (Path.mem_of_mem_split member List.mem_cons_self)

/-- The text of a path is made of slashes, or a last name without dots stands between the slashes
at its end and what is in front of it. -/
theorem steppedText_cases (name : String) :
    (∃ count, steppedText name = List.replicate count '/') ∨
      ∃ front last count, steppedText name = front ++ (last.toList ++ List.replicate count '/') ∧
        Path.IsOpen front ∧ Path.IsName last ∧ '.' ∉ last.toList := by
  rcases Disk.last_name_cases (steppedText name) with
    slashes | ⟨front, last, count, written, isOpen, nonempty, noSlash⟩
  · exact .inl slashes
  · have noDot := dot_not_mem_steppedText name
    rw [written, List.mem_append, List.mem_append, not_or, not_or] at noDot
    refine .inr ⟨front, String.ofList last, count, ?_, isOpen,
      Path.isName_ofList nonempty noSlash noDot.2.1, ?_⟩
    · rwa [String.toList_ofList]
    · rw [String.toList_ofList]
      exact noDot.2.1

/-- A text that has a first piece without dots has a step down. -/
theorem Disk.downs_pos_of_first {text : List Char} {first : Char} {rest : List Char}
    (same : text = first :: rest) (notSlash : first ≠ '/') (noDot : '.' ∉ text) :
    1 ≤ downs (Path.split text) := by
  have one {piece : List Char} (nonempty : piece ≠ []) (noSlash : '/' ∉ piece)
      (plain : '.' ∉ piece) : downs [String.ofList piece] = 1 :=
    Disk.downs_name (Path.isName_ofList nonempty noSlash plain)
  by_cases slash : '/' ∈ text
  · obtain ⟨front, back, cut, plain⟩ := List.eq_append_cons_of_mem slash
    rw [cut, Path.split_append_slash, downs_append, Path.split_of_not_mem plain, one _ plain]
    · exact Nat.le_add_right 1 _
    · rw [cut, List.mem_append, not_or] at noDot
      exact noDot.1
    · rintro rfl
      rw [same] at cut
      exact notSlash (List.cons.inj cut).1
  · rw [Path.split_of_not_mem slash,
      one (by rw [same]; exact List.cons_ne_nil _ _) slash noDot]

/-- A word is a step down. -/
theorem IsWord.downs_pos (word : IsWord limit name) :
    1 ≤ downs (Path.split (steppedText name)) := by
  obtain ⟨first, rest, same, notDot, notSlash⟩ := word.starts
  have starts : steppedText name = first :: steppedText (String.ofList rest) := by
    unfold steppedText
    rw [same, List.map_cons, if_neg notDot, String.toList_ofList]
  exact Disk.downs_pos_of_first starts notSlash (dot_not_mem_steppedText name)

/-- A chain has a step down for each of its words. -/
theorem IsChain.le_downs (chain : IsChain given limit depth name) :
    depth ≤ downs (Path.split (steppedText name)) := by
  induction chain with
  | given => exact Nat.zero_le _
  | word isWord => exact isWord.downs_pos
  | behind chain isWord inductionHypothesis =>
    rw [steppedText_below, Path.split_append_slash, downs_append]
    exact Nat.add_le_add inductionHypothesis isWord.downs_pos

/-! ### Files of names -/

/-- Another extension of the last name changes no step. -/
theorem IsChain.descends_withExtension (chain : IsChain given limit depth name)
    (positive : 0 < depth) {path : Path} {front : List Char} (isOpen : Path.IsOpen front)
    (written : path.text.toList = front ++ steppedText name) {extension : String}
    (filled : extension ≠ "") (plain : '/' ∉ extension.toList) :
    Descends depth (path.withExtension extension).text.toList := by
  have enough := chain.le_downs
  have noUp := up_not_mem_split name
  rcases steppedText_cases name with
    ⟨count, slashes⟩ | ⟨before, last, count, stepped, beforeOpen, isName, noDot⟩
  · rw [slashes, Path.split_slashes, downs, List.countP_replicate] at enough
    exact absurd enough (Nat.not_le_of_lt positive)
  · have extended := Path.isName_extended isName.nonempty isName.plain filled plain
    obtain ⟨pieces, apart⟩ := beforeOpen.split
    rw [stepped, apart, Path.split_append_slashes isName.plain, String.ofList_toList,
      downs_append] at enough
    rw [stepped, apart, List.mem_append, not_or] at noUp
    have ends : downs (last :: List.replicate count "") = 1 := by
      rw [← List.singleton_append, downs_append, Disk.downs_name isName, downs,
        List.countP_replicate]
      rfl
    have text : path.text.toList =
        front ++ before ++ (last.toList ++ List.replicate count '/') := by
      rw [written, stepped, List.append_assoc]
    refine ⟨front, before ++ (last ++ "." ++ extension).toList, ?_, isOpen, ?_, ?_⟩
    · rw [Path.withExtension_of_toList (isOpen.append beforeOpen) isName text,
        Path.splitName_of_not_mem noDot]
      simp
    · rw [apart, Path.split_of_not_mem extended.plain, String.ofList_toList, List.mem_append,
        List.mem_singleton, not_or]
      exact ⟨noUp.1, fun same => extended.notUp same.symm⟩
    · rw [apart, Path.split_of_not_mem extended.plain, String.ofList_toList, downs_append,
        Disk.downs_name extended]
      omega

/-- The path of a file has the steps down of its name, whichever of the forms it takes. -/
theorem IsChain.descends_of_fileAt? (chain : IsChain given limit depth name)
    (positive : 0 < depth) {root path : Path}
    (found : ImportSearch.fileAt? disk (root.join (ImportSearch.relativePath name)) = some path) :
    Descends depth path.text.toList := by
  obtain ⟨front, isOpen, written⟩ :=
    Path.exists_toList_join root (ImportSearch.relativePath name)
  rw [toList_relativePath] at written
  unfold ImportSearch.fileAt? at found
  rcases List.mem_cons.mp (List.mem_of_find?_eq_some found) with source | others
  · rw [source]
    exact chain.descends_withExtension positive isOpen written (by decide) (by decide)
  rcases List.mem_cons.mp others with stub | package
  · rw [stub]
    exact chain.descends_withExtension positive isOpen written (by decide) (by decide)
  · rw [List.mem_singleton.mp package]
    have descends : Descends depth (root.join (ImportSearch.relativePath name)).text.toList :=
      ⟨front, steppedText name, written, isOpen, up_not_mem_split name, chain.le_downs⟩
    exact descends.join (by decide) (by decide)

/-- A module that is found has no more words behind a given name than the disk is deep. -/
theorem IsChain.le_depth_of_find? (chain : IsChain given limit depth name) {search : ImportSearch}
    {path root : Path} (found : search.find? disk name = some (path, root)) :
    depth ≤ disk.depth := by
  unfold ImportSearch.find? at found
  split at found
  · cases found
  · obtain ⟨base, -, some⟩ := List.exists_of_findSome?_eq_some found
    obtain ⟨file, here, same⟩ := Option.map_eq_some_iff.mp some
    rcases Nat.eq_zero_or_pos depth with none | positive
    · rw [none]
      exact Nat.zero_le _
    · exact (chain.descends_of_fileAt? positive here).le_depth (List.find?_some here)

/-- What a key leads to is the key or a front of it, and is found. -/
theorem ImportSearch.moduleOf?_cases {search : ImportSearch} {key module : String}
    {path root : Path} (found : search.moduleOf? disk key = some (module, path, root)) :
    (module = key ∨ ∃ tail, key = Dotted.below module tail) ∧
      search.find? disk module = some (path, root) := by
  unfold moduleOf? at found
  split at found
  · cases found
  · obtain ⟨front, member, some⟩ := List.exists_of_findSome?_eq_some found
    obtain ⟨⟨file, base⟩, here, same⟩ := Option.map_eq_some_iff.mp some
    cases same
    refine ⟨?_, here⟩
    rcases List.mem_cons.mp member with whole | cut
    · exact .inl whole
    · obtain ⟨⟨front, rest⟩, among, rfl⟩ := List.mem_map.mp cut
      exact .inr (Dotted.eq_below_of_mem_fronts among)

/-- Whether a name is a chain with no more words than a disk is deep. -/
def IsShallow (given limit : Nat) (disk : Disk) (name : String) : Prop :=
  ∃ depth ≤ disk.depth, IsChain given limit depth name

theorem IsChained.isShallow_of_moduleOf? {key module : String} {search : ImportSearch}
    {path root : Path} (chained : IsChained given limit key)
    (found : search.moduleOf? disk key = some (module, path, root)) :
    IsShallow given limit disk module := by
  obtain ⟨whole | ⟨tail, cut⟩, here⟩ := ImportSearch.moduleOf?_cases found
  · obtain ⟨depth, chain⟩ := chained
    rw [whole] at here ⊢
    exact ⟨depth, chain.le_depth_of_find? here, chain⟩
  · rw [cut] at chained
    obtain ⟨depth, chain⟩ := chained.front
    exact ⟨depth, chain.le_depth_of_find? here, chain⟩

/-! ### Names in a build -/

namespace Analysis

theorem le_longest {text : String} {texts : List String} (member : text ∈ texts) :
    text.length ≤ longest texts :=
  Disk.le_foldr_max (List.mem_map_of_mem member)

/-- Whether a name can come up when sources are read: it starts with the name of an input or a
stored key, and has no more words behind it than the disk is deep. -/
def IsName (disk : Disk) (sources : List BuildSource) (name : String) : Prop :=
  IsShallow (longest (sources.map (·.module) ++ storedKeys disk)) (longest disk.texts + 1) disk name

variable {sources : List BuildSource} {options : BuildOptions} {usable : Option Cache}

theorem IsName.length_le (isName : IsName disk sources name) :
    name.length ≤ nameLimit disk sources := by
  obtain ⟨depth, shallow, chain⟩ := isName
  exact Nat.le_trans chain.length_le
    (Nat.add_le_add_left (Nat.mul_le_mul_left _ shallow) _)

theorem isName_of_mem {source : BuildSource} (member : source ∈ sources) :
    IsName disk sources source.module := by
  refine ⟨0, Nat.zero_le _, .given (le_longest ?_)⟩
  exact List.mem_append_left _ (List.mem_map_of_mem member)

theorem mem_texts {path : Path} {text : String} (read : disk.readText path = .ok text) :
    text ∈ disk.texts := by
  obtain ⟨place, member⟩ := Disk.mem_of_readText read
  exact List.mem_filterMap.mpr ⟨_, member, rfl⟩

theorem mem_texts_of_ofSource {lowering : LoweringOptions} {source : BuildSource} {origin : Origin}
    (given : Origin.ofSource disk lowering source = .ok origin) : origin.text ∈ disk.texts := by
  unfold Origin.ofSource Origin.sourceText at given
  cases read : disk.readText source.path with
  | ok text =>
    rw [read] at given
    cases given
    exact mem_texts read
  | error fault =>
    rw [read] at given
    cases fault <;> cases given

/-- The imports of a module that was taken from a cache are stored on the disk. -/
theorem mem_storedKeys_of_get? {cache : Cache} {fingerprint : String} {module : Module}
    (found : cache.get? disk name fingerprint = some module) :
    ∀ symbol ∈ module.imports, symbol.target.key ∈ storedKeys disk := by
  obtain ⟨entry, shown, -, made, -⟩ := Cache.get?_cases found
  obtain ⟨text, given, decoded⟩ := Option.bind_eq_some_iff.mp shown
  have stored : text ∈ disk.texts := by
    cases read : disk.readText (cache.entryPath name) with
    | error fault =>
      rw [read] at given
      cases given
    | ok content =>
      rw [read] at given
      cases given
      exact mem_texts read
  intro symbol member
  refine List.mem_flatMap.mpr ⟨text, stored, ?_⟩
  rw [decoded]
  rw [ModuleEntry.imports_of_toModule made] at member
  exact List.mem_map_of_mem member

/-- The imports of a module that was read are keys that can come up. -/
theorem allKeys_of_read {source : BuildSource} {reading : Reading}
    (success : read disk options usable source = .ok reading)
    (isName : IsName disk sources source.module) :
    ImportBindings.AllKeys
      (IsChained (longest (sources.map (·.module) ++ storedKeys disk)) (longest disk.texts + 1))
      reading.module.imports := by
  obtain ⟨origin, given, -, ⟨cache, found, -⟩ | ⟨lowered, -⟩⟩ := read_cases success
  · intro symbol member
    refine ⟨0, .given (le_longest (List.mem_append_right _ ?_))⟩
    exact mem_storedKeys_of_get? found symbol member
  · obtain ⟨depth, -, chain⟩ := isName
    exact Origin.isChained_of_lower ⟨depth, chain⟩ (le_longest (mem_texts_of_ofSource given))
      lowered

end Analysis

end Declarations
