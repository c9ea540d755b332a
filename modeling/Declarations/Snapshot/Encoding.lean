/-
This file writes the entries of a snapshot as JSON. Every object starts with what it is
named or tagged by, and its fields follow in a fixed order. Empty lists of arguments and
children, and docstrings and spans that are missing, are left out; what else is missing
is written as null.
-/

import Declarations.Json.Value
import Declarations.Snapshot.Entry

namespace Declarations

/-- A value that may be absent, as JSON. -/
def Json.ofOption {α : Type} (encode : α → Json) : Option α → Json
  | some value => encode value
  | none => .null

/-- A field that is left out when there is no value. -/
def Json.optionalField {α : Type} (name : String) (encode : α → Json) :
    Option α → List (String × Json)
  | some value => [(name, encode value)]
  | none => []

/-- A field that is left out when there are no items. -/
def Json.nonemptyField (name : String) : List Json → List (String × Json)
  | [] => []
  | items => [(name, .list items)]

/-- A list of texts, as JSON. -/
def Json.ofTexts (texts : List String) : Json :=
  .list (texts.map .text)

/-- A natural number, as JSON. -/
def Json.ofNat (value : Nat) : Json :=
  .integer value

/-- The field that says what an object is. -/
def Json.tagField : String := ".class"

/-! ### Types -/

/-- The kinds of types. -/
inductive TypeTag where
  | any
  | absent
  | builtin
  | named
  | union
  | tuple
  | callable
  | literal
  | unknown
deriving DecidableEq, Repr, Inhabited

/-- The kinds of types, in the order in which messages list them. -/
def TypeTag.all : List TypeTag :=
  [any, absent, builtin, named, union, tuple, callable, literal, unknown]

/-- The word for a kind of types. -/
def TypeTag.word : TypeTag → String
  | any => "Any"
  | absent => "NoneType"
  | builtin => "Builtin"
  | named => "Instance"
  | union => "Union"
  | tuple => "Tuple"
  | callable => "Callable"
  | literal => "Literal"
  | unknown => "Unknown"

/-- The fields of a kind of types, apart from its tag. -/
def TypeTag.fields : TypeTag → List String
  | any | absent => []
  | builtin => ["name", "args"]
  | named => ["type_ref", "args"]
  | union | tuple => ["items"]
  | callable => ["params", "ret"]
  | literal => ["values"]
  | unknown => ["text"]

/-- The field that holds the tag of a type. -/
def TypeTag.field (tag : TypeTag) : String × Json :=
  (Json.tagField, .text tag.word)

namespace TypeExpr

mutual

/-- A type as JSON. -/
def toJson : TypeExpr → Json
  | .any => .object [TypeTag.any.field]
  | .absent => .object [TypeTag.absent.field]
  | .builtin name arguments =>
    .object <| [TypeTag.builtin.field, ("name", .text name)] ++
      Json.nonemptyField "args" (toJsonAll arguments)
  | .named reference arguments =>
    .object <| [TypeTag.named.field, ("type_ref", .text reference.key)] ++
      Json.nonemptyField "args" (toJsonAll arguments)
  | .union members => .object [TypeTag.union.field, ("items", .list (toJsonAll members))]
  | .tuple items => .object [TypeTag.tuple.field, ("items", .list (toJsonAll items))]
  | .callable parameters result =>
    .object [TypeTag.callable.field, ("params", toJsonGiven parameters), ("ret", toJson result)]
  | .literal values => .object [TypeTag.literal.field, ("values", .ofTexts values)]
  | .unknown spelling => .object [TypeTag.unknown.field, ("text", .text spelling)]

/-- Types as JSON. -/
def toJsonAll : List TypeExpr → List Json
  | [] => []
  | first :: rest => toJson first :: toJsonAll rest

/-- A parameter list as JSON. -/
def toJsonGiven : Option (List TypeExpr) → Json
  | none => .null
  | some types => .list (toJsonAll types)

end

end TypeExpr

/-! ### Declarations -/

/-- The word for a kind of parameters. -/
def ArgumentKind.word : ArgumentKind → String
  | .positional => "ARG_POS"
  | .optional => "ARG_OPT"
  | .star => "ARG_STAR"
  | .named => "ARG_NAMED"
  | .doubleStar => "ARG_STAR2"
  | .namedOptional => "ARG_NAMED_OPT"

/-- The kinds of parameters, in the order in which messages list them. -/
def ArgumentKind.all : List ArgumentKind :=
  [positional, optional, star, named, doubleStar, namedOptional]

/-- A parameter as JSON. -/
def Parameter.toJson (parameter : Parameter) : Json :=
  .object
    [("name", .text parameter.name), ("kind", .text parameter.kind.word),
      ("type", .ofOption TypeExpr.toJson parameter.type),
      ("default", .ofOption .text parameter.default)]

/-- The tag of a kind of declarations. -/
def DeclarationKind.entryTag : DeclarationKind → String
  | .function _ => "FuncDef"
  | .classDef _ => "ClassDef"
  | .variable _ => "Var"
  | .typeAlias _ => "TypeAlias"

/-- The fields of a declaration that depend on its kind. -/
def DeclarationKind.fields : DeclarationKind → List (String × Json)
  | .function signature =>
    [("params", .list (signature.parameters.map Parameter.toJson)),
      ("ret", .ofOption TypeExpr.toJson signature.result),
      ("is_async", .bool signature.isAsync),
      ("decorators", .ofTexts signature.decorators),
      ("is_static", .bool signature.isStatic),
      ("is_class", .bool signature.isClass),
      ("is_property", .bool signature.isProperty),
      ("is_overload", .bool signature.isOverload)]
  | .classDef heading =>
    [("bases", .list (heading.bases.map TypeExpr.toJson)),
      ("metaclass", .ofOption TypeExpr.toJson heading.metaclass),
      ("decorators", .ofTexts heading.decorators)]
  | .variable info =>
    [("type", .ofOption TypeExpr.toJson info.type),
      ("is_final", .bool info.isFinal),
      ("is_classvar", .bool info.isClassVariable),
      ("value", .ofOption .text info.value)]
  | .typeAlias target => [("target", target.toJson)]

/-- A span as JSON. -/
def Span.toJson (span : Span) : Json :=
  .object [("line_start", .ofNat span.first.toNat), ("line_end", .ofNat span.last.toNat)]

namespace DeclarationEntry

/-- The fields of a declaration apart from its children. -/
def bodyFields (body : DeclarationBody) : List (String × Json) :=
  [("name", .text body.name), ("fullname", .text body.fullname),
    (Json.tagField, .text body.kind.entryTag)] ++
    body.kind.fields ++
    Json.optionalField "docstring" .text body.docstring ++
    Json.optionalField "span" Span.toJson body.span

mutual

/-- A declaration as JSON. -/
def toJson : DeclarationEntry → Json
  | .node body children =>
    .object (bodyFields body ++ Json.nonemptyField "children" (toJsonAll children))

/-- Declarations as JSON. -/
def toJsonAll : List DeclarationEntry → List Json
  | [] => []
  | first :: rest => toJson first :: toJsonAll rest

end

end DeclarationEntry

/-! ### Modules -/

/-- An imported name as JSON. -/
def ImportedSymbol.toJson (symbol : ImportedSymbol) : Json :=
  .object [("name", .text symbol.name), ("target", .text symbol.target.key)]

/-- A module as JSON. -/
def ModuleEntry.toJson (entry : ModuleEntry) : Json :=
  .object <|
    [(Json.tagField, .text entry.tag), ("version", .ofNat entry.version),
      ("name", .text entry.name), ("path", .text entry.path.text)] ++
    Json.optionalField "docstring" .text entry.docstring ++
    [("is_package", .bool entry.isPackage),
      ("imports", .list (entry.imports.map ImportedSymbol.toJson)),
      ("defs", .list (DeclarationEntry.toJsonAll entry.definitions))]

end Declarations
