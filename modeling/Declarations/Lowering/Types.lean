/-
This file turns type hints into types. A name becomes a builtin type, one of the special
forms of typing, a name of the standard library, or a reference to the key it is bound
to. Binding is lexical: the scopes of the classes around it, then the imports, then the
builtins, then the modules all of whose names are imported.
-/

import Declarations.Build.Options
import Declarations.Lowering.Imports

namespace Declarations

/-- The types that need no import. -/
def builtinTypes : List String :=
  ["int", "float", "complex", "str", "bytes", "bytearray", "bool", "object", "list", "dict",
    "set", "frozenset", "tuple", "type", "range", "slice", "memoryview", "BaseException",
    "Exception", "ValueError", "TypeError", "KeyError", "IndexError", "RuntimeError",
    "NotImplementedError", "AttributeError", "OSError", "IOError", "StopIteration"]

/-- The names of typing that have a meaning of their own. -/
def specialForms : List String :=
  ["Any", "Optional", "Union", "List", "Dict", "Set", "FrozenSet", "Tuple", "Type", "Callable",
    "Literal", "ClassVar", "Final", "Annotated", "TypeAlias"]

/-- The modules whose members may be special forms. -/
def typingModules : List String :=
  ["typing", "typing_extensions", "collections.abc"]

/-- What a name is bound to. -/
inductive Binding where
  | builtin (name : String)
  | special (form : String)
  /-- A name of the standard library. -/
  | external (name : String)
  | key (key : String)
deriving DecidableEq, Repr

/-- The member of a typing module that a key names. -/
def typingMember? (key : String) : Option String :=
  typingModules.findSome? fun module => Dotted.stripScope? module key

/-- What a key that no scope of the module holds stands for. -/
def Binding.ofKey (key : String) : Binding :=
  match Dotted.stripScope? "builtins" key with
  | some name => .builtin name
  | none =>
    match typingMember? key with
    | some member => if specialForms.contains member then .special member else .external key
    | none => if isStandard key then .external key else .key key

/-- The names that a body declares, and the dotted name of what the body belongs to. -/
structure Scope where
  path : String
  names : List String

/-- The scope of a body. -/
def Scope.ofItems (path : String) (items : List Item) : Scope :=
  ⟨path, items.map Item.name⟩

/-- What the meaning of a name depends on; the innermost scope is the first. -/
structure LoweringContext where
  options : LoweringOptions
  bindings : ImportBindings
  scopes : List Scope

namespace LoweringContext

/-- Enters a scope. -/
def enter (context : LoweringContext) (scope : Scope) : LoweringContext :=
  { context with scopes := scope :: context.scopes }

/-- What a dotted name is bound to, which its first part decides. -/
def bind (context : LoweringContext) (name : String) : Binding :=
  let head := Dotted.head name
  let rest := Dotted.afterHead name
  match context.scopes.find? fun scope => scope.names.contains head with
  | some scope => .key (Dotted.below scope.path name)
  | none =>
    match context.bindings.keys.get? head with
    | some key => .ofKey (key ++ rest)
    | none =>
      if rest.isEmpty ∧ builtinTypes.contains head then .builtin head
      else
        match context.bindings.wildcards.head? with
        | some module => .ofKey (Dotted.below module name)
        | none => .ofKey name

/-! ### Unions -/

/-- The members that a type adds to a union. -/
def unionMembers : TypeExpr → List TypeExpr
  | .union members => members
  | type => [type]

/-- Removes every type that came before. -/
def withoutRepeats (types : List TypeExpr) : List TypeExpr :=
  types.foldl (fun kept type => if kept.contains type then kept else kept ++ [type]) []

/-- Leaves the absent value out of a union, unless it is the only member. -/
def withoutAbsent (members : List TypeExpr) : List TypeExpr :=
  if members.any fun type => type != .absent then members.filter fun type => type != .absent
  else members

/-- A union of members; a single one is the union itself. -/
def ofMembers : List TypeExpr → TypeExpr
  | [type] => type
  | members => .union members

/-- The union of types: nested unions are taken apart and repeated members dropped, and unless
options say otherwise the absent value as well. -/
def union (strict : Bool) (types : List TypeExpr) : TypeExpr :=
  let members := withoutRepeats (types.flatMap unionMembers)
  ofMembers (if strict then members else withoutAbsent members)

/-! ### Forms -/

/-- The builtin that a special form with arguments stands for. -/
def genericName (form : String) : String :=
  match form with
  | "List" => "list"
  | "Dict" => "dict"
  | "Set" => "set"
  | "FrozenSet" => "frozenset"
  | "Type" => "type"
  | other => "typing." ++ other

/-- A special form without arguments. -/
def bareForm (form : String) : TypeExpr :=
  match form with
  | "Any" | "TypeAlias" => .any
  | "Tuple" => .plain "tuple"
  | "Callable" => .callable none .any
  | other => .plain (genericName other)

/-- The type of a name. -/
def nameType (context : LoweringContext) (name : String) : TypeExpr :=
  match context.bind name with
  | .builtin builtin => .plain builtin
  | .special form => bareForm form
  | .external full => .plain full
  | .key key => .toKey key

/-- The type of a special form with arguments, those of functions and literals apart. -/
def formType (context : LoweringContext) (form : String) (arguments : List TypeExpr) :
    TypeExpr :=
  match form with
  | "Optional" => union context.options.strictOptional (arguments ++ [.absent])
  | "Union" => union context.options.strictOptional arguments
  | "Tuple" => .tuple arguments
  | "ClassVar" | "Final" | "Annotated" => arguments.head?.getD .any
  | "Any" | "TypeAlias" => .any
  | other => .builtin (genericName other) arguments

mutual

/-- The type of a hint. -/
def typeOf (context : LoweringContext) : TypeHint → TypeExpr
  | .name name => context.nameType name
  | .subscript base arguments =>
    match context.bind base with
    | .special "Callable" => callableType context arguments
    | .special "Literal" => .literal (TypeHint.texts arguments)
    | .special form => context.formType form (typesOf context arguments)
    | .builtin "tuple" => .tuple (typesOf context arguments)
    | .builtin name | .external name => .builtin name (typesOf context arguments)
    | .key key => .named (.pending key) (typesOf context arguments)
  | .union members => union context.options.strictOptional (typesOf context members)
  | .absent => .absent
  | .ellipsis => .unknown "..."
  | .quoted text => if Dotted.isName text then context.nameType text else .unknown text
  | .list items => .unknown (TypeHint.text (.list items))
  | .literal text | .other text => .unknown text

/-- The types of hints. -/
def typesOf (context : LoweringContext) : List TypeHint → List TypeExpr
  | [] => []
  | hint :: rest => typeOf context hint :: typesOf context rest

/-- The type of a function form with its arguments: parameters and a result. -/
def callableType (context : LoweringContext) : List TypeHint → TypeExpr
  | [.ellipsis, result] => .callable none (typeOf context result)
  | [.list items, result] => .callable (some (typesOf context items)) (typeOf context result)
  | [parameter, result] => .callable (some [typeOf context parameter]) (typeOf context result)
  | _ => .callable none .any

end

end LoweringContext

end Declarations
