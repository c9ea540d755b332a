/-
This file proves that entries hold no numbers but natural numbers of 64 bits, so that the
text of an entry is read back.
-/

import Declarations.Build.Cache
import Declarations.Proofs.Json.Reading

namespace Declarations

/-! ### Values -/

namespace Json

@[simp]
theorem plain_object {fields : List (String × Json)} : (object fields).Plain ↔ PlainFields fields :=
  Iff.rfl

@[simp]
theorem plain_text {value : String} : (text value).Plain :=
  trivial

@[simp]
theorem plain_bool {value : Bool} : (bool value).Plain :=
  trivial

@[simp]
theorem plain_null : null.Plain :=
  trivial

theorem plain_ofNat {value : Nat} (small : value < significandLimit) : (ofNat value).Plain :=
  ⟨Int.natCast_nonneg value, Int.ofNat_lt.mpr small⟩

theorem plain_list {items : List Json} : (list items).Plain ↔ ∀ item ∈ items, item.Plain := by
  show PlainItems items ↔ _
  induction items with
  | nil => simp [PlainItems]
  | cons item rest inductionHypothesis => rw [PlainItems, inductionHypothesis, List.forall_mem_cons]

@[simp]
theorem plainFields_nil : PlainFields [] :=
  trivial

@[simp]
theorem plainFields_cons {field : String × Json} {rest : List (String × Json)} :
    PlainFields (field :: rest) ↔ field.2.Plain ∧ PlainFields rest :=
  Iff.rfl

@[simp]
theorem plainFields_append {first second : List (String × Json)} :
    PlainFields (first ++ second) ↔ PlainFields first ∧ PlainFields second := by
  induction first with
  | nil => simp
  | cons field rest inductionHypothesis =>
    rw [List.cons_append, plainFields_cons, plainFields_cons, inductionHypothesis, and_assoc]

@[simp]
theorem plain_ofTexts {texts : List String} : (ofTexts texts).Plain := by
  rw [ofTexts, plain_list]
  intro item member
  obtain ⟨value, _, rfl⟩ := List.mem_map.mp member
  exact plain_text

theorem plain_ofOption {α : Type} {encode : α → Json} (plain : ∀ value, (encode value).Plain)
    (value : Option α) : (ofOption encode value).Plain := by
  cases value with
  | none => exact plain_null
  | some value => exact plain value

theorem plain_optionalField {α : Type} {name : String} {encode : α → Json}
    (plain : ∀ value, (encode value).Plain) (value : Option α) :
    PlainFields (optionalField name encode value) := by
  cases value with
  | none => exact plainFields_nil
  | some value => exact ⟨plain value, plainFields_nil⟩

theorem plain_nonemptyField {name : String} {items : List Json}
    (plain : ∀ item ∈ items, item.Plain) : PlainFields (nonemptyField name items) := by
  cases items with
  | nil => exact plainFields_nil
  | cons item rest => exact ⟨plain_list.mpr plain, plainFields_nil⟩

end Json

open Json

/-! ### Types -/

namespace TypeExpr

mutual

theorem plain_toJson : ∀ type : TypeExpr, type.toJson.Plain
  | .any => by simp [toJson, TypeTag.field]
  | .absent => by simp [toJson, TypeTag.field]
  | .builtin name arguments => by
    simp [toJson, TypeTag.field, plain_nonemptyField (plain_toJsonAll arguments)]
  | .named reference arguments => by
    simp [toJson, TypeTag.field, plain_nonemptyField (plain_toJsonAll arguments)]
  | .union members => by
    simp [toJson, TypeTag.field, plain_list.mpr (plain_toJsonAll members)]
  | .tuple items => by simp [toJson, TypeTag.field, plain_list.mpr (plain_toJsonAll items)]
  | .callable none result => by
    simp [toJson, toJsonGiven, TypeTag.field, plain_toJson result]
  | .callable (some parameters) result => by
    simp [toJson, toJsonGiven, TypeTag.field, plain_toJson result,
      plain_list.mpr (plain_toJsonAll parameters)]
  | .literal values => by simp [toJson, TypeTag.field]
  | .unknown spelling => by simp [toJson, TypeTag.field]

theorem plain_toJsonAll : ∀ types : List TypeExpr, ∀ item ∈ toJsonAll types, item.Plain
  | [] => fun _ member => absurd member List.not_mem_nil
  | first :: rest => by
    intro item member
    rcases List.mem_cons.mp member with rfl | later
    · exact plain_toJson first
    · exact plain_toJsonAll rest item later

end

end TypeExpr

/-! ### Declarations and modules -/

theorem Parameter.plain_toJson (parameter : Parameter) : parameter.toJson.Plain := by
  simp [toJson, plain_ofOption TypeExpr.plain_toJson, plain_ofOption fun _ => plain_text]

theorem Span.plain_toJson (span : Span) : span.toJson.Plain := by
  simp [toJson, plain_ofNat span.first.toNat_lt, plain_ofNat span.last.toNat_lt]

theorem plain_list_map {α : Type} {encode : α → Json} (plain : ∀ value, (encode value).Plain)
    (values : List α) : (Json.list (values.map encode)).Plain := by
  rw [plain_list]
  intro item member
  obtain ⟨value, _, rfl⟩ := List.mem_map.mp member
  exact plain value

theorem DeclarationKind.plain_fields (kind : DeclarationKind) : PlainFields kind.fields := by
  cases kind with
  | function signature =>
    simp [fields, plain_list_map Parameter.plain_toJson, plain_ofOption TypeExpr.plain_toJson]
  | classDef heading =>
    simp [fields, plain_list_map TypeExpr.plain_toJson, plain_ofOption TypeExpr.plain_toJson]
  | «variable» info =>
    simp [fields, plain_ofOption TypeExpr.plain_toJson, plain_ofOption fun _ => plain_text]
  | typeAlias target => simp [fields, TypeExpr.plain_toJson]

namespace DeclarationEntry

theorem plain_bodyFields (body : DeclarationBody) : PlainFields (bodyFields body) := by
  simp [bodyFields, DeclarationKind.plain_fields, plain_optionalField Span.plain_toJson,
    plain_optionalField fun _ => plain_text]

mutual

theorem plain_toJson : ∀ entry : DeclarationEntry, entry.toJson.Plain
  | .node body children => by
    simp [toJson, plain_bodyFields, plain_nonemptyField (plain_toJsonAll children)]

theorem plain_toJsonAll : ∀ entries : List DeclarationEntry,
    ∀ item ∈ toJsonAll entries, item.Plain
  | [] => fun _ member => absurd member List.not_mem_nil
  | first :: rest => by
    intro item member
    rcases List.mem_cons.mp member with rfl | later
    · exact plain_toJson first
    · exact plain_toJsonAll rest item later

end

end DeclarationEntry

theorem ImportedSymbol.plain_toJson (symbol : ImportedSymbol) : symbol.toJson.Plain := by
  simp [toJson]

/-- A module entry of a version that 64 bits hold has no other numbers. -/
theorem ModuleEntry.plain_toJson {entry : ModuleEntry} (fits : entry.version < significandLimit) :
    entry.toJson.Plain := by
  simp [toJson, plain_ofNat fits, plain_optionalField fun _ => plain_text,
    plain_list_map ImportedSymbol.plain_toJson,
    plain_list.mpr (DeclarationEntry.plain_toJsonAll entry.definitions)]

theorem CacheEntry.plain_toJson {entry : CacheEntry}
    (fits : entry.module.version < significandLimit) : entry.toJson.Plain := by
  simp [toJson, ModuleEntry.plain_toJson fits]

theorem Manifest.plain_toJson (manifest : Manifest) : manifest.toJson.Plain := by
  have texts : ∀ entries : List (String × String),
      PlainFields (entries.map fun entry => (entry.1, Json.text entry.2)) := by
    intro entries
    induction entries with
    | nil => exact plainFields_nil
    | cons entry rest inductionHypothesis => exact ⟨plain_text, inductionHypothesis⟩
  simp only [toJson, plain_object, plainFields_cons, plain_text, plainFields_nil, and_true,
    true_and]
  exact texts manifest.modules.entries

end Declarations
