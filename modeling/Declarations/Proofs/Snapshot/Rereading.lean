/-
This file proves when a snapshot that was written can be read again. The reader goes a fixed
number of brackets deep and the writer any number, so where the brackets of one entry nest too
deep, the whole text is refused, and with it every other entry.
-/

import Declarations.Proofs.Build.Work
import Declarations.Proofs.Disk.Writing
import Declarations.Proofs.Json.Sorting
import Declarations.Proofs.Snapshot.Exact
import Declarations.Proofs.Snapshot.Plain
import Declarations.Snapshot.Load
import Declarations.Snapshot.Save

namespace Declarations

/-! ### Files -/

namespace Snapshot

theorem write_of_run {snapshot : Snapshot} {path : Path} {indented : Bool} {disk after : Disk}
    (success : (snapshot.write path indented).run disk = (.ok (), after)) :
    ∃ before : Disk, before.write path (.text (snapshot.render indented)) = .ok after := by
  unfold write at success
  dsimp only at success
  split at success
  · split at success
    · obtain ⟨-, before, -, wrote⟩ := Work.of_run_bind_ok success
      exact ⟨before, Work.of_run_onDisk_ok wrote⟩
    · exact ⟨disk, Work.of_run_onDisk_ok success⟩
  · exact ⟨disk, Work.of_run_onDisk_ok success⟩

/-! ### Entries -/

/-- Whether no brackets in the entries of a snapshot nest so deep that, inside those of the
snapshot, the reader would not go there. -/
def Shallow (snapshot : Snapshot) : Prop :=
  ∀ entry ∈ snapshot.entries, entry.2.nesting < Json.depthLimit

theorem shallow_iff {snapshot : Snapshot} :
    snapshot.Shallow ↔ snapshot.toJson.nesting ≤ Json.depthLimit := by
  rw [toJson, Json.nesting, Nat.succ_le_iff, Nat.lt_iff_le_pred (by decide),
    Json.nestingFields_le]
  exact forall₂_congr fun _ _ => Nat.lt_iff_le_pred (by decide)

theorem mem_entries_ofModules {modules : ModuleSet} :
    ∀ entry ∈ (ofModules modules).entries, ∃ module ∈ modules.values,
      entry = (module.name, (ModuleEntry.ofModule module).toJson.sorted) := by
  unfold ofModules
  refine List.foldlRecOn (motive := fun snapshot : Snapshot =>
    ∀ entry ∈ snapshot.entries, ∃ module ∈ modules.values,
      entry = (module.name, (ModuleEntry.ofModule module).toJson.sorted)) _ _
    (fun _ member => nomatch member) fun snapshot before module inside entry member => ?_
  rcases NameMap.mem_insertEntry member with same | old
  · exact ⟨module, inside, same⟩
  · exact before entry old

theorem plain_toJson_ofModules (modules : ModuleSet) : (ofModules modules).toJson.Plain := by
  refine Json.plainFields_iff.2 fun entry member => ?_
  have fits : ModuleEntry.currentVersion < Json.significandLimit := by decide
  obtain ⟨module, -, rfl⟩ := mem_entries_ofModules entry member
  exact Json.plain_sorted _ (ModuleEntry.plain_toJson fits)

theorem sorted_toJson_ofModules (modules : ModuleSet) :
    (ofModules modules).toJson.sorted = (ofModules modules).toJson := by
  have fixed : ∀ entry ∈ (ofModules modules).entries, entry.2.sorted = entry.2 := by
    intro entry member
    obtain ⟨module, -, rfl⟩ := mem_entries_ofModules entry member
    exact Json.sorted_sorted _
  rw [toJson, Json.sorted, Json.sortedFields_of_fixed fixed,
    Json.sortFields_of_ascending (ofModules modules).ascending]

/-! ### Texts -/

/-- A text that starts with a brace is read as an object. -/
theorem ofText_render (snapshot : Snapshot) (indented : Bool) :
    ofText (snapshot.render indented) =
      match Json.read (snapshot.render indented) with
      | .ok (.object fields) => .ok (NameMap.ofList fields)
      | .ok other =>
        let place := (Json.ReadPlace.start (snapshot.render indented)).skipBlanks
        .error (.shape (.wrongType other "a map") place.line place.column)
      | .error error => .error (.text error) := by
  have starts : (Json.ReadPlace.start (snapshot.render indented)).skipBlanks.rest.head? =
      some '{' := by
    have opens : (snapshot.render indented).toList =
        '{' :: Json.inside indented 0 '}' (Json.writeFields indented 0 snapshot.entries) := by
      rw [render, toJson, Json.render, Json.write, Json.toList_enclose indented _ '}' rfl]
      rfl
    have left : (Json.ReadPlace.start (snapshot.render indented)).rest =
        [] ++ '{' :: Json.inside indented 0 '}' (Json.writeFields indented 0 snapshot.entries) :=
      opens
    rw [Json.ReadPlace.rest_skipBlanks (by rintro _ ⟨⟩; decide) Json.blank_nil left]
    rfl
  rw [ofText]
  dsimp only
  rw [starts]
  rfl

theorem ofText_render_ofModules (modules : ModuleSet) (indented : Bool) :
    ((ofModules modules).Shallow ∧
      ofText ((ofModules modules).render indented) = .ok (ofModules modules)) ∨
      (¬ (ofModules modules).Shallow ∧
        ∃ error, ofText ((ofModules modules).render indented) = .error (.text error)) := by
  have read := Json.readWithin_render indented (plain_toJson_ofModules modules) Json.depthLimit
  rw [ofText_render, shallow_iff, Nat.not_le]
  rcases read with ⟨fits, whole⟩ | ⟨deep, error, refused⟩
  · refine .inl ⟨fits, ?_⟩
    rw [Json.read, render, whole, sorted_toJson_ofModules]
    exact congrArg Except.ok (NameMap.ofList_entries _)
  · refine .inr ⟨deep, error, ?_⟩
    rw [Json.read, render, refused]

theorem read_of_readText {disk : Disk} {path : Path} {text : String}
    (found : disk.readText path = .ok text) :
    read disk path = (ofText text).mapError .json := by
  rw [read, found]
  dsimp only
  cases ofText text <;> rfl

/-- The snapshot of modules is read from its text and from its file where no brackets in it nest
too deep, and is refused as a whole elsewhere. -/
theorem read_render_iff_shallow (modules : ModuleSet) (indented : Bool) :
    let snapshot := ofModules modules
    (snapshot.Shallow →
      ofText (snapshot.render indented) = .ok snapshot ∧
        ∀ path disk after, (snapshot.write path indented).run disk = (.ok (), after) →
          read after path = .ok snapshot) ∧
      (¬ snapshot.Shallow → ∃ error,
        ofText (snapshot.render indented) = .error (.text error) ∧
          (∀ previous, loadText (snapshot.render indented) previous =
            .error (.json (.text error))) ∧
          ∀ path disk after, (snapshot.write path indented).run disk = (.ok (), after) →
            ∀ previous, loadFile after path previous = .error (.json (.text error))) := by
  intro snapshot
  rcases ofText_render_ofModules modules indented with ⟨shallow, whole⟩ | ⟨deep, error, refused⟩
  · refine ⟨fun _ => ⟨whole, fun path disk after success => ?_⟩, fun deep => absurd shallow deep⟩
    obtain ⟨before, wrote⟩ := write_of_run success
    rw [read_of_readText (Disk.readText_of_write wrote), whole]
    rfl
  · refine ⟨fun shallow => absurd shallow deep, fun _ => ⟨error, refused, fun previous => ?_,
      fun path disk after success previous => ?_⟩⟩
    · rw [loadText, refused]
    · obtain ⟨before, wrote⟩ := write_of_run success
      rw [loadFile, read_of_readText (Disk.readText_of_write wrote), refused]
      rfl

/-! ### Deep annotations -/

/-- Lists of lists, as many in each other as a number says. -/
def listsOf : Nat → TypeExpr
  | 0 => .plain "int"
  | count + 1 => .builtin "list" [listsOf count]

/-- A variable of such a type. -/
def deepBody (count : Nat) : DeclarationBody :=
  ⟨"x", "deep.x", .variable ⟨some (listsOf count), false, false, none⟩, none, none⟩

/-- A module with such a variable. -/
def deepModule (count : Nat) : Module :=
  (Module.skeleton "deep" ⟨"deep.py"⟩).add none (deepBody count)

theorem nesting_listsOf (count : Nat) : (listsOf count).toJson.sorted.nesting = 2 * count + 1 := by
  induction count with
  | zero => rfl
  | succ count hypothesis =>
    have distinct := @TypeExpr.nodup_withArguments .builtin "name" (.text "list") (by decide)
      (by decide) [listsOf count]
    rw [listsOf, TypeExpr.toJson, Json.nesting_sorted_object distinct]
    simp only [TypeTag.field, TypeExpr.toJsonAll, Json.nonemptyField, List.cons_append,
      List.nil_append, Json.sortedFields, Json.sortedItems, Json.sorted, Json.nestingFields,
      Json.nestingItems, Json.nesting, hypothesis]
    omega

theorem definitions_deepModule (count : Nat) :
    (ModuleEntry.ofModule (deepModule count)).definitions = [.node (deepBody count) []] :=
  ModuleEntry.definitions_ofModule rfl rfl

/-- A variable whose type nests lists nests twice as many brackets in the entry of its module. -/
theorem nesting_deepModule (count : Nat) :
    (ModuleEntry.ofModule (deepModule count)).toJson.sorted.nesting = 2 * count + 4 := by
  have inside : (DeclarationEntry.node (deepBody count) []).toJson.sorted.nesting =
      2 * count + 2 := by
    have distinct := DeclarationEntry.nodup_allFields (deepBody count) []
    rw [DeclarationEntry.toJson]
    refine (Json.nesting_sorted_object distinct).trans ?_
    simp only [DeclarationEntry.allFields, DeclarationEntry.bodyFields, deepBody,
      DeclarationKind.fields, Json.ofOption, Json.optionalField, Json.nonemptyField,
      DeclarationEntry.toJsonAll, List.cons_append, List.nil_append, List.append_nil,
      Json.sortedFields, Json.sorted, Json.nestingFields, Json.nesting, nesting_listsOf]
    omega
  have distinct := (ModuleEntry.ofModule (deepModule count)).nodup_fields
  have empty : (ModuleEntry.ofModule (deepModule count)).docstring = none := rfl
  have imports : (ModuleEntry.ofModule (deepModule count)).imports = [] := rfl
  rw [ModuleEntry.toJson]
  refine (Json.nesting_sorted_object distinct).trans ?_
  rw [ModuleEntry.fields, empty, imports, definitions_deepModule]
  simp only [Json.optionalField, List.map_nil, DeclarationEntry.toJsonAll, Json.ofNat,
    List.cons_append, List.nil_append, Json.sortedFields, Json.sortedItems, Json.sorted,
    Json.nestingFields, Json.nestingItems, Json.nesting, inside]
  omega

theorem shallow_deepModule_iff (count : Nat) :
    (ofModule (deepModule count)).Shallow ↔ count < 62 := by
  have entries : (ofModule (deepModule count)).entries =
      [("deep", (ModuleEntry.ofModule (deepModule count)).toJson.sorted)] := rfl
  rw [Shallow, entries, List.forall_mem_singleton, nesting_deepModule, Json.depthLimit]
  omega

/-- A snapshot that nests as deep as can be read, and one that nests deeper. -/
theorem read_render_iff_shallow_deep :
    let fitting := ofModules (ModuleSet.add NameMap.empty (deepModule 61))
    let deep := ofModules (ModuleSet.add NameMap.empty (deepModule 62))
    fitting.Shallow ∧ ¬ deep.Shallow ∧
      (∃ after, (fitting.write ⟨"graph.json"⟩ true).run (Disk.blank []) = (.ok (), after) ∧
        read after ⟨"graph.json"⟩ = .ok fitting) ∧
      ∃ after, (deep.write ⟨"graph.json"⟩ true).run (Disk.blank []) = (.ok (), after) ∧
        ∃ error, loadFile after ⟨"graph.json"⟩ NameMap.empty = .error (.json (.text error)) := by
  intro fitting deep
  have shallow : fitting.Shallow := (shallow_deepModule_iff 61).2 (by decide)
  have notShallow : ¬ deep.Shallow := fun shallow =>
    absurd ((shallow_deepModule_iff 62).1 shallow) (by decide)
  have written (text : String) : (Disk.blank []).write ⟨"graph.json"⟩ (.text text) =
      .ok ⟨[(["graph.json"], .file (.text text))], []⟩ := by
    rfl
  have steps (snapshot : Snapshot) : snapshot.write ⟨"graph.json"⟩ true =
      Work.onDisk fun disk => disk.write ⟨"graph.json"⟩ (.text (snapshot.render true)) := by
    have parent : Path.parent? ⟨"graph.json"⟩ = some ⟨""⟩ := by decide +kernel
    unfold write
    rw [parent]
    rfl
  have run (snapshot : Snapshot) : (snapshot.write ⟨"graph.json"⟩ true).run (Disk.blank []) =
      (.ok (), ⟨[(["graph.json"], .file (.text (snapshot.render true)))], []⟩) := by
    rw [steps]
    exact Work.run_onDisk_ok (written (snapshot.render true))
  obtain ⟨-, readBack⟩ := (read_render_iff_shallow _ true).1 shallow
  obtain ⟨error, -, -, refused⟩ := (read_render_iff_shallow _ true).2 notShallow
  exact ⟨shallow, notShallow, ⟨_, run fitting, readBack _ _ _ (run fitting)⟩, _, run deep, error,
    refused _ _ _ (run deep) _⟩

/-- A disk with two modules. The one annotates a variable with as many brackets as make its entry
nest too deep, and the other is empty. -/
def deepDisk : Disk :=
  ⟨[(["deep.py"], .file (.text (String.ofList
      ("x: ".toList ++ (List.replicate 62 "a[".toList).flatten ++ "a".toList ++
        List.replicate 62 ']' ++ ['\n'])))),
    (["plain.py"], .file (.text ""))], []⟩

/-- A build reads both modules, and the text written for them is refused. -/
theorem ofText_build_deep :
    ∃ result, ((Build.run .standard { BuildOptions.default with incremental := false }
        [⟨"deep.py"⟩, ⟨"plain.py"⟩]).run deepDisk).1 = .ok result ∧
      result.failures = [] ∧ result.modules.names = ["deep", "plain"] ∧
      ∀ indented, ∃ error,
        ofText ((ofModules result.modules).render indented) = .error (.text error) := by
  have built : (((Build.run .standard { BuildOptions.default with incremental := false }
      [⟨"deep.py"⟩, ⟨"plain.py"⟩]).run deepDisk).1.toOption.map fun result =>
        (result.failures.isEmpty, result.modules.names,
          (ofModules result.modules).entries.any (Json.depthLimit ≤ ·.2.nesting))) =
      some (true, ["deep", "plain"], true) := by
    decide +kernel
  generalize ((Build.run .standard { BuildOptions.default with incremental := false }
      [⟨"deep.py"⟩, ⟨"plain.py"⟩]).run deepDisk).1 = ended at built ⊢
  cases ended with
  | error problem => cases built
  | ok result =>
    obtain ⟨clean, names, deep⟩ : result.failures.isEmpty ∧
        result.modules.names = ["deep", "plain"] ∧
        (ofModules result.modules).entries.any (Json.depthLimit ≤ ·.2.nesting) := by
      simpa [Except.toOption] using built
    refine ⟨result, rfl, List.isEmpty_iff.1 clean, names, fun indented => ?_⟩
    rcases ofText_render_ofModules result.modules indented with ⟨shallow, -⟩ | ⟨-, refused⟩
    · obtain ⟨entry, member, nests⟩ := List.any_eq_true.1 deep
      exact absurd (shallow entry member) (Nat.not_lt.2 (of_decide_eq_true nests))
    · exact refused

end Snapshot

end Declarations
