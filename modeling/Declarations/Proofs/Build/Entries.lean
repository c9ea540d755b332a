/-
This file says what the texts in a cache hold. The entry that is written for a module is read
back as that entry, or not at all when it nests too deep; a manifest is read back as that
manifest, and never taken for an entry; and the fingerprint of an origin is that of a text
which tells its path, its options and its source apart, as long as the path is on one line.
-/

import Declarations.Build.Origin
import Declarations.Proofs.Json.Reading
import Declarations.Proofs.Json.Sorting
import Declarations.Proofs.Snapshot.Plain
import Declarations.Proofs.Snapshot.RoundTrip

namespace Declarations

open Json (Shape)

/-! ### Parts -/

/-- The modules of a manifest as JSON. -/
def Manifest.hashes (manifest : Manifest) : List (String × Json) :=
  manifest.modules.entries.map fun (name, hash) => (name, .text hash)

namespace CachePart

open Json.Plan (taken_of_closed takenFields_append takenFields_of_fixed takenItems_of_fixed)

theorem closed_whole : plan.Closed whole :=
  ⟨fun _ => rfl, fun _ => rfl⟩

/-- A field of a declaration that depends on its kind is read in full. -/
theorem field_definition {name : String} (other : name ∉ ["span", "children"]) :
    plan.field definition name = some whole := by
  rw [List.mem_cons, List.mem_singleton, not_or] at other
  have unlisted : (fields definition).lookup name = none := by
    rw [fields, List.lookup_cons, beq_eq_false_iff_ne.2 other.1, List.lookup_cons,
      beq_eq_false_iff_ne.2 other.2]
    rfl
  show ((fields definition).lookup name <|> some whole) = some whole
  rw [unlisted]
  rfl

theorem takenFields_kind (kind : DeclarationKind) :
    plan.takenFields definition kind.fields = kind.fields := by
  refine takenFields_of_fixed plan fun field member => ?_
  have other : field.1 ∉ ["span", "children"] := by
    revert field
    cases kind <;> simp [DeclarationKind.fields]
  exact ⟨whole, field_definition other, taken_of_closed closed_whole field.2⟩

theorem takenFields_body (body : DeclarationBody) :
    plan.takenFields definition (DeclarationEntry.bodyFields body) =
      DeclarationEntry.bodyFields body := by
  obtain ⟨name, fullname, kind, docstring, span⟩ := body
  rw [DeclarationEntry.bodyFields, takenFields_append, takenFields_append, takenFields_append,
    takenFields_kind]
  cases docstring <;> cases span <;> rfl

mutual

/-- All that is written of a declaration is read. -/
theorem taken_definition : (entry : DeclarationEntry) →
    plan.taken definition entry.toJson = entry.toJson
  | .node body children => by
    have inner := takenItems_definitions 0 children
    have nested : plan.takenFields definition
        (Json.nonemptyField "children" (DeclarationEntry.toJsonAll children)) =
          Json.nonemptyField "children" (DeclarationEntry.toJsonAll children) := by
      cases children with
      | nil => rfl
      | cons first rest => exact congrArg (fun items => [("children", Json.list items)]) inner
    rw [DeclarationEntry.toJson, Json.Plan.taken, takenFields_append, takenFields_body, nested]

theorem takenItems_definitions (place : Nat) : (entries : List DeclarationEntry) →
    plan.takenItems definitions place (DeclarationEntry.toJsonAll entries) =
      DeclarationEntry.toJsonAll entries
  | [] => rfl
  | first :: rest => by
    rw [DeclarationEntry.toJsonAll, Json.Plan.takenItems, takenItems_definitions (place + 1) rest]
    exact congrArg (· :: _) (taken_definition first)

end

/-- All that is written of a module is read. -/
theorem taken_module (entry : ModuleEntry) :
    plan.taken module entry.toJson = entry.toJson := by
  have imported : plan.takenItems imports 0 (entry.imports.map ImportedSymbol.toJson) =
      entry.imports.map ImportedSymbol.toJson := by
    refine takenItems_of_fixed plan _ (fun item member place => ?_) 0
    obtain ⟨symbol, -, rfl⟩ := List.mem_map.1 member
    rfl
  have defined := takenItems_definitions 0 entry.definitions
  have optional : plan.takenFields module (Json.optionalField "docstring" .text entry.docstring) =
      Json.optionalField "docstring" .text entry.docstring := by
    cases entry.docstring <;> rfl
  have last : plan.takenFields module
      [("is_package", .bool entry.isPackage),
        ("imports", .list (entry.imports.map ImportedSymbol.toJson)),
        ("defs", .list (DeclarationEntry.toJsonAll entry.definitions))] =
      [("is_package", .bool entry.isPackage),
        ("imports", .list (plan.takenItems imports 0 (entry.imports.map ImportedSymbol.toJson))),
        ("defs", .list
          (plan.takenItems definitions 0 (DeclarationEntry.toJsonAll entry.definitions)))] :=
    rfl
  rw [ModuleEntry.toJson, Json.Plan.taken, takenFields_append, takenFields_append, optional, last,
    imported, defined]
  rfl

/-- All that is written of an entry is read. -/
theorem taken_entry (written : CacheEntry) : plan.taken entry written.toJson = written.toJson := by
  have inside := taken_module written.module
  have fields : plan.taken entry written.toJson =
      .object [("version", .text written.version), ("hash", .text written.fingerprint),
        ("module", plan.taken module written.module.toJson)] :=
    rfl
  rw [fields, inside, CacheEntry.toJson]

/-- All that is written of a manifest is read. -/
theorem taken_manifest (written : Manifest) :
    plan.taken manifest written.toJson = written.toJson := by
  have inside := taken_of_closed closed_whole (.object written.hashes)
  exact congrArg (fun modules => Json.object [("version", .text written.version),
    ("inputs_hash", .text written.inputs), ("modules", modules)]) inside

/-! ### Texts with a shape -/

variable {α : Type} {shape : Json.Shape α} {part : CachePart} {indented : Bool} {value : Json}

/-- What is read of a written text has the shape of the parts that are read. -/
theorem ofText?_render (plain : value.Plain) {found : α}
    (read : part.ofText? shape (value.render indented) = some found) :
    shape (plan.taken part value) = .ok found := by
  unfold ofText? at read
  rcases Json.readParts_render plan part indented plain Json.depthLimit with
    ⟨-, whole⟩ | ⟨-, error, refused⟩
  · rw [whole] at read
    dsimp only at read
    cases shaped : shape (plan.taken part value) with
    | error error => simp [shaped, Except.toOption] at read
    | ok result =>
      rw [shaped] at read
      cases read
      rfl
  · rw [refused] at read
    cases read

/-- A text whose parts do not nest too deep is read. -/
theorem ofText?_render_of_shallow (plain : value.Plain)
    (shallow : (plan.taken part value).nesting ≤ Json.depthLimit) :
    part.ofText? shape (value.render indented) = (shape (plan.taken part value)).toOption := by
  rcases Json.readParts_render plan part indented plain Json.depthLimit with
    ⟨-, whole⟩ | ⟨deep, -⟩
  · rw [ofText?, whole]
  · exact absurd shallow (Nat.not_le.mpr deep)

end CachePart

/-! ### Entries and manifests -/

/-- An entry is read back with its references as keys that were not looked up. -/
theorem CacheEntry.ofJson_toJson {entry : CacheEntry} (fits : entry.module.version < Nat.pow 2 32) :
    ofJson entry.toJson =
      .ok { entry with module := entry.module.mapReferences Reference.forget } := by
  have module := ModuleEntry.ofJson_toJson .asWritten fits
  have distinct : (["version", "hash", "module"] : List String).Nodup := by decide
  have read : Shape.fill Draft.fill {}
      [("version", .text entry.version), ("hash", .text entry.fingerprint),
        ("module", entry.module.toJson)] =
      .ok { version := some entry.version, fingerprint := some entry.fingerprint,
            module := some (entry.module.mapReferences Reference.forget) } :=
    Shape.fill_cons rfl (Shape.fill_cons rfl (Shape.fill_cons (bind_ok module rfl) rfl))
  exact bind_ok (bind_ok (Shape.once_of_nodup _ distinct) (bind_ok read rfl)) rfl

theorem CacheEntry.plain_ofModule (version fingerprint : String) (module : Module) :
    (toJson ⟨version, fingerprint, .ofModule module⟩).Plain := by
  have fits : ModuleEntry.currentVersion < Json.significandLimit := by decide
  exact plain_toJson fits

theorem CacheEntry.ofJson_ofModule (version fingerprint : String) (module : Module) :
    ofJson (toJson ⟨version, fingerprint, .ofModule module⟩) =
      .ok ⟨version, fingerprint, (ModuleEntry.ofModule module).mapReferences Reference.forget⟩ := by
  have fits : ModuleEntry.currentVersion < Nat.pow 2 32 := by decide
  exact ofJson_toJson fits

theorem Manifest.texts_hashes (manifest : Manifest) :
    texts (.object manifest.hashes) = .ok manifest.modules := by
  have run : ∀ (entries : List (String × String)) (map : NameMap String),
      (entries.map fun entry => (entry.1, Json.text entry.2)).foldlM
          (fun map field => do return map.insert field.1 (← Json.Shape.text field.2)) map =
        (.ok (entries.foldl (fun map entry => map.insert entry.1 entry.2) map) :
          Except Json.ShapeError (NameMap String)) := by
    intro entries
    induction entries with
    | nil => exact fun _ => rfl
    | cons entry rest inductionHypothesis => exact fun map => inductionHypothesis _
  exact (run _ _).trans (congrArg Except.ok (NameMap.ofList_entries _))

/-- A manifest is read as it was written. -/
theorem Manifest.ofJson_toJson (manifest : Manifest) : ofJson manifest.toJson = .ok manifest := by
  have distinct : (["version", "inputs_hash", "modules"] : List String).Nodup := by decide
  have read : Shape.fill Draft.fill {}
      [("version", .text manifest.version), ("inputs_hash", .text manifest.inputs),
        ("modules", .object manifest.hashes)] =
      .ok { version := some manifest.version, inputs := some manifest.inputs,
            modules := some manifest.modules } :=
    Shape.fill_cons rfl (Shape.fill_cons rfl
      (Shape.fill_cons (bind_ok manifest.texts_hashes rfl) rfl))
  exact bind_ok (bind_ok (Shape.once_of_nodup _ distinct) (bind_ok read rfl)) rfl

/-- The brackets of a manifest nest twice. -/
theorem Manifest.nesting_toJson (manifest : Manifest) :
    manifest.toJson.nesting ≤ Json.depthLimit := by
  have flat : Json.nestingFields manifest.hashes ≤ 0 := by
    refine Json.nestingFields_le.mpr fun field member => ?_
    obtain ⟨entry, -, rfl⟩ := List.mem_map.mp member
    exact Nat.le_refl 0
  have nested : manifest.toJson.nesting = Json.nestingFields manifest.hashes + 2 := by
    simp [toJson, hashes, Json.nesting, Json.nestingFields]
  rw [nested, Nat.le_zero.mp flat]
  decide

/-- A manifest has no fingerprint of a module, so it is no entry. -/
theorem Manifest.ofText?_pretty (manifest : Manifest) :
    CacheEntry.ofText? manifest.toJson.pretty = none := by
  cases read : CacheEntry.ofText? manifest.toJson.pretty with
  | none => rfl
  | some entry =>
    have shaped := CachePart.ofText?_render manifest.plain_toJson read
    -- Of a manifest that is taken for an entry only the version is read.
    have taken : CachePart.plan.taken .entry manifest.toJson =
        .object [("version", .text manifest.version)] :=
      rfl
    have missing : CacheEntry.ofJson (.object [("version", .text manifest.version)]) =
        .error (.missing "hash") :=
      rfl
    rw [taken, missing] at shaped
    cases shaped

/-- The text of an entry holds that entry without the resolutions, if it is read at all. -/
theorem Cache.ofText?_entryText {cache : Cache} {module : Module} {fingerprint : String}
    {entry : CacheEntry}
    (read : CacheEntry.ofText? (cache.entryText module fingerprint) = some entry) :
    entry = ⟨cache.version, fingerprint,
      (ModuleEntry.ofModule module).mapReferences Reference.forget⟩ := by
  have shaped := CachePart.ofText?_render (CacheEntry.plain_ofModule _ _ module) read
  rw [CachePart.taken_entry, CacheEntry.ofJson_ofModule] at shaped
  exact (Except.ok.inj shaped).symm

/-! ### Origins -/

namespace Origin

theorem word_append_inj {first second : List Char} {value other : Bool}
    (same : first ++ (word value).toList = second ++ (word other).toList) :
    first = second ∧ value = other := by
  have backward := congrArg List.reverse same
  rw [List.reverse_append, List.reverse_append] at backward
  cases value with
  | true =>
    cases other with
    | true => exact ⟨List.append_cancel_right same, rfl⟩
    | false => exact absurd (List.cons.inj (List.cons.inj backward).2).1 (by decide)
  | false =>
    cases other with
    | true => exact absurd (List.cons.inj (List.cons.inj backward).2).1 (by decide)
    | false => exact ⟨List.append_cancel_right same, rfl⟩

theorem toList_stamp (path : Path) (options : LoweringOptions) :
    (stamp path options).toList =
      ((((((path.text.toList ++ "|so=".toList) ++ (word options.strictOptional).toList) ++
        "|pa=".toList) ++ (word options.preserveAsts).toList) ++ "|ds=".toList) ++
        (word options.includeDocstrings).toList) ++ ['\n'] := by
  rw [stamp]
  simp only [String.toList_append]
  rfl

/-- The line of a path and options tells them apart. -/
theorem stamp_inj {path other : Path} {options others : LoweringOptions}
    (same : stamp path options = stamp other others) : path = other ∧ options = others := by
  have lines := congrArg String.toList same
  rw [toList_stamp, toList_stamp] at lines
  obtain ⟨marks, docstrings⟩ := word_append_inj (List.append_cancel_right lines)
  obtain ⟨marks, asts⟩ := word_append_inj (List.append_cancel_right marks)
  obtain ⟨paths, strict⟩ := word_append_inj (List.append_cancel_right marks)
  have sameText := String.toList_inj.mp (List.append_cancel_right paths)
  exact ⟨congrArg Path.mk sameText, LoweringOptions.ext strict asts docstrings⟩

/-- A line is told apart from what follows it. -/
theorem line_append_inj :
    ∀ {first second : List Char} {text other : List Char}, '\n' ∉ first → '\n' ∉ second →
      first ++ '\n' :: text = second ++ '\n' :: other → first = second ∧ text = other
  | [], [], _, _, _, _, same => ⟨rfl, (List.cons.inj same).2⟩
  | [], character :: second, _, _, _, oneLine, same =>
    absurd ((List.cons.inj same).1 ▸ List.mem_cons_self) oneLine
  | character :: first, [], _, _, oneLine, _, same =>
    absurd ((List.cons.inj same).1 ▸ List.mem_cons_self) oneLine
  | character :: first, other :: second, _, _, oneLine, otherLine, same => by
    obtain ⟨head, tail⟩ := List.cons.inj same
    obtain ⟨front, back⟩ := line_append_inj (fun member => oneLine (List.mem_cons_of_mem _ member))
      (fun member => otherLine (List.mem_cons_of_mem _ member)) tail
    exact ⟨by rw [head, front], back⟩

/-- Whether the path of an origin is on one line. -/
def OneLine (origin : Origin) : Prop :=
  '\n' ∉ origin.path.text.toList

theorem stamp_oneLine {origin : Origin} (oneLine : origin.OneLine) :
    ∃ line, (stamp origin.path origin.options).toList = line ++ ['\n'] ∧ '\n' ∉ line := by
  refine ⟨_, toList_stamp _ _, ?_⟩
  simp only [List.mem_append, not_or]
  have words : ∀ value, '\n' ∉ (word value).toList := by
    intro value
    cases value <;> decide
  exact ⟨⟨⟨⟨⟨⟨oneLine, by decide⟩, words _⟩, by decide⟩, words _⟩, by decide⟩, words _⟩

/-- Origins whose paths are on one line are told apart by their stamped texts. -/
theorem stamped_inj {first second : Origin} (firstLine : first.OneLine)
    (secondLine : second.OneLine) (same : first.stamped = second.stamped) : first = second := by
  obtain ⟨line, written, oneLine⟩ := stamp_oneLine firstLine
  obtain ⟨otherLine, otherWritten, otherOneLine⟩ := stamp_oneLine secondLine
  have texts := congrArg String.toList same
  rw [stamped, stamped, String.toList_append, String.toList_append, written, otherWritten,
    List.append_assoc, List.append_assoc] at texts
  obtain ⟨sameLine, sameText⟩ := line_append_inj oneLine otherOneLine texts
  have stamps : stamp first.path first.options = stamp second.path second.options := by
    rw [← String.toList_inj, written, otherWritten, sameLine]
  obtain ⟨path, options⟩ := stamp_inj stamps
  exact Origin.ext path options (String.toList_inj.mp sameText)

end Origin

end Declarations
