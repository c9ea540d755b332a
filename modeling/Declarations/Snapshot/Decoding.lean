/-
This file reads the entries of a snapshot back from JSON. What was left out when an entry
was written is put back, fields that are not known are passed over, and every other
deviation is reported as it is met: a field that is given twice, then fields in the order in
which they stand, then what is missing.
References come back as keys that were not looked up yet.
-/

import Declarations.Json.Shape
import Declarations.Snapshot.Encoding

namespace Declarations

open Json (Shape ShapeError Standing)

/-- The field that tells what an object is, read as one of some tags. -/
def Json.Shape.tagOf {α : Type} (standing : Standing) (known : List (String × α))
    (fields : List (String × Json)) : Except ShapeError α := do
  Shape.once [Json.tagField] fields
  match fields.lookup Json.tagField with
  | some value => Shape.tag standing known value
  | none => .error (.missing Json.tagField)

/-! ### Types -/

/-- The kinds of types by their words. -/
def TypeTag.known : List (String × TypeTag) :=
  TypeTag.all.map fun tag => (tag.word, tag)

/-- What was read of a type. -/
structure TypeDraft where
  name : Option String := none
  arguments : List TypeExpr := []
  key : Option String := none
  items : Option (List TypeExpr) := none
  parameters : Option (List TypeExpr) := none
  result : Option TypeExpr := none
  values : Option (List String) := none
  spelling : Option String := none

/-- Puts a field into a draft. The types in it are read by `one`, where it holds a type, and by
`many`, where it holds a list of types. -/
def TypeDraft.put (draft : TypeDraft) (field : String) (value : Json)
    (one : Unit → Except ShapeError TypeExpr) (many : Unit → Except ShapeError (List TypeExpr)) :
    Except ShapeError TypeDraft :=
  match field with
  | "name" => return { draft with name := ← Shape.text value }
  | "args" => return { draft with arguments := ← many () }
  | "type_ref" => return { draft with key := ← Shape.text value }
  | "items" => return { draft with items := ← many () }
  | "params" => return { draft with parameters := ← Shape.optional (fun _ => many ()) value }
  | "ret" => return { draft with result := ← one () }
  | "values" => return { draft with values := ← Shape.list Shape.text value }
  | "text" => return { draft with spelling := ← Shape.text value }
  | _ => return draft

/-- Puts a field into a draft, if the kind of types has it. -/
def TypeDraft.fill (tag : TypeTag) (draft : TypeDraft) (field : String) (value : Json)
    (one : Unit → Except ShapeError TypeExpr) (many : Unit → Except ShapeError (List TypeExpr)) :
    Except ShapeError TypeDraft :=
  if field ∈ tag.fields then draft.put field value one many else return draft

/-- The type of a draft. -/
def TypeDraft.finish (tag : TypeTag) (draft : Shape.Draft TypeDraft) :
    Except ShapeError TypeExpr :=
  match tag with
  | .any => return .any
  | .absent => return .absent
  | .builtin => return .builtin (← draft.require "name" (·.name)) draft.found.arguments
  | .named =>
    return .named (.pending (← draft.require "type_ref" (·.key))) draft.found.arguments
  | .union => return .union (← draft.require "items" (·.items))
  | .tuple => return .tuple (← draft.require "items" (·.items))
  | .callable => return .callable draft.found.parameters (← draft.require "ret" (·.result))
  | .literal => return .literal (← draft.require "values" (·.values))
  | .unknown => return .unknown (← draft.require "text" (·.spelling))

/-- What messages call the fields of a kind of types. -/
def TypeTag.recordName (tag : TypeTag) : String :=
  s!"struct variant TypeExpr::{tag.word}"

namespace TypeExpr

mutual

/-- A type. -/
def ofJson (standing : Standing) : Json → Except ShapeError TypeExpr
  | .object fields => do
    let tag ← Shape.tagOf standing TypeTag.known fields
    Shape.once tag.fields fields
    let found ← ofFields tag {} fields
    TypeDraft.finish tag ⟨found, .missing⟩
  | .list [] => .error (.missing Json.tagField)
  | .list (first :: items) => do
    let tag ← Shape.tag standing TypeTag.known first
    let count := tag.fields.length
    let found ← ofItems tag {} tag.fields items
    if count < items.length then throw (Shape.tooLong .aside count items.length)
    TypeDraft.finish tag ⟨found, fun _ => Shape.tooShort tag.recordName count items.length⟩
  | other => .error (.wrongType other "internally tagged enum TypeExpr")

/-- Types. -/
def ofJsonAll : Json → Except ShapeError (List TypeExpr)
  | .list items => ofJsonEach items
  | other => .error (.wrongType other "a sequence")

/-- One type after the other. -/
def ofJsonEach : List Json → Except ShapeError (List TypeExpr)
  | [] => .ok []
  | first :: rest => do
    let type ← ofJson .aside first
    return type :: (← ofJsonEach rest)

/-- The fields of a type, in the order in which they stand. -/
def ofFields (tag : TypeTag) (draft : TypeDraft) :
    List (String × Json) → Except ShapeError TypeDraft
  | [] => .ok draft
  | (field, value) :: rest => do
    let draft ← draft.fill tag field value (fun _ => ofJson .aside value) fun _ => ofJsonAll value
    ofFields tag draft rest

/-- The fields of a type that are given without their names. -/
def ofItems (tag : TypeTag) (draft : TypeDraft) :
    List String → List Json → Except ShapeError TypeDraft
  | field :: fields, value :: rest => do
    let draft ← draft.fill tag field value (fun _ => ofJson .aside value) fun _ => ofJsonAll value
    ofItems tag draft fields rest
  | _, _ => .ok draft

end

end TypeExpr

/-! ### Declarations -/

/-- The kinds of parameters by their words. -/
def ArgumentKind.known : List (String × ArgumentKind) :=
  ArgumentKind.all.map fun kind => (kind.word, kind)

/-- What was read of a parameter. -/
structure ParameterDraft where
  name : Option String := none
  kind : Option ArgumentKind := none
  type : Option TypeExpr := none
  default : Option String := none

/-- Puts a field of a parameter into a draft. -/
def ParameterDraft.fill (draft : ParameterDraft) (field : String) : Shape ParameterDraft :=
  fun value =>
    match field with
    | "name" => return { draft with name := ← Shape.text value }
    | "kind" => return { draft with kind := ← Shape.word .aside ArgumentKind.known value }
    | "type" => return { draft with type := ← Shape.optional (TypeExpr.ofJson .aside) value }
    | "default" => return { draft with default := ← Shape.optional Shape.text value }
    | _ => return draft

/-- The fields of a parameter. -/
def Parameter.fieldNames : List String :=
  ["name", "kind", "type", "default"]

/-- A parameter. -/
def Parameter.ofJson : Shape Parameter := fun value => do
  let draft ← Shape.record "struct Param" .aside fieldNames {} ParameterDraft.fill value
  return {
    name := ← draft.require "name" (·.name)
    kind := ← draft.require "kind" (·.kind)
    type := draft.found.type
    default := draft.found.default }

/-- What was read of the fields that depend on the kind of a declaration. -/
structure KindDraft where
  parameters : Option (List Parameter) := none
  result : Option TypeExpr := none
  isAsync : Bool := false
  decorators : List String := []
  isStatic : Bool := false
  isClass : Bool := false
  isProperty : Bool := false
  isOverload : Bool := false
  bases : Option (List TypeExpr) := none
  metaclass : Option TypeExpr := none
  type : Option TypeExpr := none
  isFinal : Bool := false
  isClassVariable : Bool := false
  value : Option String := none
  target : Option TypeExpr := none

/-- Puts a field of a function into a draft. -/
def KindDraft.fillFunction (draft : KindDraft) (field : String) : Shape KindDraft := fun value =>
  match field with
  | "params" => return { draft with parameters := ← Shape.list Parameter.ofJson value }
  | "ret" => return { draft with result := ← Shape.optional (TypeExpr.ofJson .aside) value }
  | "is_async" => return { draft with isAsync := ← Shape.bool value }
  | "decorators" => return { draft with decorators := ← Shape.list Shape.text value }
  | "is_static" => return { draft with isStatic := ← Shape.bool value }
  | "is_class" => return { draft with isClass := ← Shape.bool value }
  | "is_property" => return { draft with isProperty := ← Shape.bool value }
  | "is_overload" => return { draft with isOverload := ← Shape.bool value }
  | _ => return draft

/-- Puts a field of a class into a draft. -/
def KindDraft.fillClass (draft : KindDraft) (field : String) : Shape KindDraft := fun value =>
  match field with
  | "bases" => return { draft with bases := ← Shape.list (TypeExpr.ofJson .aside) value }
  | "metaclass" =>
    return { draft with metaclass := ← Shape.optional (TypeExpr.ofJson .aside) value }
  | "decorators" => return { draft with decorators := ← Shape.list Shape.text value }
  | _ => return draft

/-- Puts a field of a variable into a draft. -/
def KindDraft.fillVariable (draft : KindDraft) (field : String) : Shape KindDraft := fun value =>
  match field with
  | "type" => return { draft with type := ← Shape.optional (TypeExpr.ofJson .aside) value }
  | "is_final" => return { draft with isFinal := ← Shape.bool value }
  | "is_classvar" => return { draft with isClassVariable := ← Shape.bool value }
  | "value" => return { draft with value := ← Shape.optional Shape.text value }
  | _ => return draft

/-- Puts a field of a type alias into a draft. -/
def KindDraft.fillAlias (draft : KindDraft) (field : String) : Shape KindDraft := fun value =>
  match field with
  | "target" => return { draft with target := ← TypeExpr.ofJson .aside value }
  | _ => return draft

/-- Reads the fields of a kind of declarations, of which some are missing at the end. -/
def KindDraft.read (known : List String) (fill : KindDraft → String → Shape KindDraft)
    (fields : List (String × Json)) : Except ShapeError (Shape.Draft KindDraft) := do
  Shape.once known fields
  return ⟨← Shape.fill fill {} fields, .missing⟩

namespace DeclarationKind

/-- The fields of a function. -/
def functionFields : List String :=
  ["params", "ret", "is_async", "decorators", "is_static", "is_class", "is_property",
    "is_overload"]

/-- The fields of a class. -/
def classFields : List String :=
  ["bases", "metaclass", "decorators"]

/-- The fields of a variable. -/
def variableFields : List String :=
  ["type", "is_final", "is_classvar", "value"]

/-- The fields of a type alias. -/
def aliasFields : List String :=
  ["target"]

/-- How the fields of a function are read. -/
def functionOf (fields : List (String × Json)) : Except ShapeError DeclarationKind := do
  let draft ← KindDraft.read functionFields KindDraft.fillFunction fields
  return .function {
    parameters := ← draft.require "params" (·.parameters)
    result := draft.found.result
    isAsync := draft.found.isAsync
    decorators := draft.found.decorators
    isStatic := draft.found.isStatic
    isClass := draft.found.isClass
    isProperty := draft.found.isProperty
    isOverload := draft.found.isOverload }

/-- How the fields of a class are read. -/
def classOf (fields : List (String × Json)) : Except ShapeError DeclarationKind := do
  let draft ← KindDraft.read classFields KindDraft.fillClass fields
  return .classDef {
    bases := ← draft.require "bases" (·.bases)
    metaclass := draft.found.metaclass
    decorators := draft.found.decorators }

/-- How the fields of a variable are read. -/
def variableOf (fields : List (String × Json)) : Except ShapeError DeclarationKind := do
  let draft ← KindDraft.read variableFields KindDraft.fillVariable fields
  return .variable {
    type := draft.found.type
    isFinal := draft.found.isFinal
    isClassVariable := draft.found.isClassVariable
    value := draft.found.value }

/-- How the fields of a type alias are read. -/
def aliasOf (fields : List (String × Json)) : Except ShapeError DeclarationKind := do
  let draft ← KindDraft.read aliasFields KindDraft.fillAlias fields
  return .typeAlias (← draft.require "target" (·.target))

/-- How each kind of declarations is read, by its tag. -/
def readers : List (String × (List (String × Json) → Except ShapeError DeclarationKind)) :=
  [("FuncDef", functionOf), ("ClassDef", classOf), ("Var", variableOf), ("TypeAlias", aliasOf)]

/-- The fields of a declaration that depend on its kind. -/
def ofFields (fields : List (String × Json)) : Except ShapeError DeclarationKind := do
  (← Shape.tagOf .aside readers fields) fields

end DeclarationKind

/-- What was read of a span. -/
structure SpanDraft where
  first : Option UInt64 := none
  last : Option UInt64 := none

/-- A line number. -/
def Json.Shape.lineNumber : Shape UInt64 := fun value =>
  (Shape.natural 64 "usize" value).map .ofNat

/-- Puts a field of a span into a draft. -/
def SpanDraft.fill (draft : SpanDraft) (field : String) : Shape SpanDraft := fun value =>
  match field with
  | "line_start" => return { draft with first := ← Shape.lineNumber value }
  | "line_end" => return { draft with last := ← Shape.lineNumber value }
  | _ => return draft

/-- The fields of a span. -/
def Span.fieldNames : List String :=
  ["line_start", "line_end"]

/-- A span. -/
def Span.ofJson : Shape Span := fun value => do
  let draft ← Shape.record "struct Span" .direct fieldNames {} SpanDraft.fill value
  return {
    first := ← draft.require "line_start" (·.first)
    last := ← draft.require "line_end" (·.last) }

/-- What was read of a declaration apart from its kind. -/
structure EntryDraft where
  name : Option String := none
  fullname : Option String := none
  docstring : Option String := none
  span : Option Span := none
  children : List DeclarationEntry := []

/-- Puts a field of a declaration into a draft, unless it depends on the kind. The declarations
in it are read by `many`. -/
def EntryDraft.fill (draft : EntryDraft) (field : String) (value : Json)
    (many : Unit → Except ShapeError (List DeclarationEntry)) : Except ShapeError EntryDraft :=
  match field with
  | "name" => return { draft with name := ← Shape.text value }
  | "fullname" => return { draft with fullname := ← Shape.text value }
  | "docstring" => return { draft with docstring := ← Shape.optional Shape.text value }
  | "span" => return { draft with span := ← Shape.optional Span.ofJson value }
  | "children" => return { draft with children := ← many () }
  | _ => return draft

namespace DeclarationEntry

/-- The fields of a declaration that do not depend on its kind. -/
def fieldNames : List String :=
  ["name", "fullname", "docstring", "span", "children"]

/-- The declaration of a draft. -/
def ofDraft (draft : EntryDraft) (fields : List (String × Json)) :
    Except ShapeError DeclarationEntry := do
  let draft : Shape.Draft EntryDraft := ⟨draft, .missing⟩
  let name ← draft.require "name" (·.name)
  let fullname ← draft.require "fullname" (·.fullname)
  let kind ← DeclarationKind.ofFields fields
  let body : DeclarationBody :=
    { name, fullname, kind, docstring := draft.found.docstring, span := draft.found.span }
  return .node body draft.found.children

mutual

/-- A declaration. -/
def ofJson : Json → Except ShapeError DeclarationEntry
  | .object fields => do
    Shape.once fieldNames fields
    ofDraft (← ofFields {} fields) fields
  | other => .error (.wrongType other "struct DeclEntry")

/-- Declarations. -/
def ofJsonAll : Json → Except ShapeError (List DeclarationEntry)
  | .list items => ofJsonEach items
  | other => .error (.wrongType other "a sequence")

/-- One declaration after the other. -/
def ofJsonEach : List Json → Except ShapeError (List DeclarationEntry)
  | [] => .ok []
  | first :: rest => do
    let entry ← ofJson first
    return entry :: (← ofJsonEach rest)

/-- The fields of a declaration apart from those of its kind, in the order in which they
stand. -/
def ofFields (draft : EntryDraft) : List (String × Json) → Except ShapeError EntryDraft
  | [] => .ok draft
  | (field, value) :: rest => do
    let draft ← draft.fill field value fun _ => ofJsonAll value
    ofFields draft rest

end

end DeclarationEntry

/-! ### Modules -/

/-- What was read of an imported name. -/
structure SymbolDraft where
  name : Option String := none
  key : Option String := none

/-- Puts a field of an imported name into a draft. -/
def SymbolDraft.fill (draft : SymbolDraft) (field : String) : Shape SymbolDraft := fun value =>
  match field with
  | "name" => return { draft with name := ← Shape.text value }
  | "target" => return { draft with key := ← Shape.text value }
  | _ => return draft

/-- The fields of an imported name. -/
def ImportedSymbol.fieldNames : List String :=
  ["name", "target"]

/-- An imported name. -/
def ImportedSymbol.ofJson : Shape ImportedSymbol := fun value => do
  let draft ← Shape.record "struct ImportedSymbol" .direct fieldNames {} SymbolDraft.fill value
  return {
    name := ← draft.require "name" (·.name)
    target := .pending (← draft.require "target" (·.key)) }

/-- What was read of a module. -/
structure ModuleDraft where
  tag : Option String := none
  version : Option Nat := none
  name : Option String := none
  path : Option Path := none
  docstring : Option String := none
  isPackage : Bool := false
  imports : List ImportedSymbol := []
  definitions : List DeclarationEntry := []

/-- Puts a field of a module into a draft. -/
def ModuleDraft.fill (draft : ModuleDraft) (field : String) : Shape ModuleDraft := fun value =>
  match field with
  | ".class" => return { draft with tag := ← Shape.text value }
  | "version" => return { draft with version := ← Shape.natural 32 "u32" value }
  | "name" => return { draft with name := ← Shape.text value }
  | "path" => return { draft with path := some ⟨← Shape.pathText value⟩ }
  | "docstring" => return { draft with docstring := ← Shape.optional Shape.text value }
  | "is_package" => return { draft with isPackage := ← Shape.bool value }
  | "imports" => return { draft with imports := ← Shape.list ImportedSymbol.ofJson value }
  | "defs" => return { draft with definitions := ← DeclarationEntry.ofJsonAll value }
  | _ => return draft

/-- The fields of a module. -/
def ModuleEntry.fieldNames : List String :=
  [Json.tagField, "version", "name", "path", "docstring", "is_package", "imports", "defs"]

/-- A module. -/
def ModuleEntry.ofJson : Shape ModuleEntry := fun value => do
  let draft ← Shape.record "struct ModuleEntry" .direct fieldNames {} ModuleDraft.fill value
  return {
    tag := ← draft.require Json.tagField (·.tag)
    version := ← draft.require "version" (·.version)
    name := ← draft.require "name" (·.name)
    path := ← draft.require "path" (·.path)
    docstring := draft.found.docstring
    isPackage := draft.found.isPackage
    imports := draft.found.imports
    definitions := draft.found.definitions }

end Declarations
