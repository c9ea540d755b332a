/-
This file holds declarations: functions, classes, variables and type aliases with their
types bound, and the one-line text that shows each.
-/

import Declarations.Graph.TypeExpr

namespace Declarations

/-- How an argument reaches a parameter, and whether it may be left out. -/
inductive ArgumentKind where
  | positional
  | optional
  | star
  | named
  | doubleStar
  | namedOptional
deriving DecidableEq, Repr, Inhabited

namespace ArgumentKind

/-- Whether a parameter takes arguments by position; `star` also admits one that takes all. -/
def isPositional (star : Bool) : ArgumentKind → Bool
  | .positional | .optional => true
  | .star => star
  | _ => false

/-- Whether a parameter takes arguments by keyword only; `star` also admits one that takes
all. -/
def isNamed (star : Bool) : ArgumentKind → Bool
  | .named | .namedOptional => true
  | .doubleStar => star
  | _ => false

/-- Whether an argument must be given. -/
def isRequired : ArgumentKind → Bool
  | .positional | .named => true
  | _ => false

/-- Whether a parameter has a default. -/
def isOptional : ArgumentKind → Bool
  | .optional | .namedOptional => true
  | _ => false

/-- Whether a parameter takes any number of arguments. -/
def isStar : ArgumentKind → Bool
  | .star | .doubleStar => true
  | _ => false

end ArgumentKind

/-- A parameter of a function. -/
structure Parameter where
  name : String
  kind : ArgumentKind
  type : Option TypeExpr
  default : Option String
deriving DecidableEq, Repr, Inhabited

/-- What a function declares. -/
structure Signature where
  parameters : List Parameter
  result : Option TypeExpr
  isAsync : Bool
  decorators : List String
  isStatic : Bool
  isClass : Bool
  isProperty : Bool
  isOverload : Bool
deriving DecidableEq, Repr, Inhabited

/-- What a class header declares. -/
structure ClassHeading where
  bases : List TypeExpr
  metaclass : Option TypeExpr
  decorators : List String
deriving DecidableEq, Repr, Inhabited

/-- What a variable declares. -/
structure Variable where
  type : Option TypeExpr
  isFinal : Bool
  isClassVariable : Bool
  value : Option String
deriving DecidableEq, Repr, Inhabited

/-- The kinds of declarations with what each declares. -/
inductive DeclarationKind where
  | function (signature : Signature)
  | classDef (heading : ClassHeading)
  | variable (info : Variable)
  | typeAlias (target : TypeExpr)
deriving DecidableEq, Repr, Inhabited

namespace DeclarationKind

/-- The word for a kind. -/
def tag : DeclarationKind → String
  | .function _ => "function"
  | .classDef _ => "class"
  | .variable _ => "variable"
  | .typeAlias _ => "type_alias"

/-- The types in a declaration, in the order they are written. -/
def types : DeclarationKind → List TypeExpr
  | .function signature => signature.parameters.filterMap (·.type) ++ signature.result.toList
  | .classDef heading => heading.bases ++ heading.metaclass.toList
  | .variable info => info.type.toList
  | .typeAlias target => [target]

/-- The references in a declaration, in the order they are written. -/
def references (kind : DeclarationKind) : List Reference :=
  kind.types.flatMap TypeExpr.references

/-- Changes every type in a declaration. -/
def mapTypes (change : TypeExpr → TypeExpr) : DeclarationKind → DeclarationKind
  | .function signature =>
    .function { signature with
      parameters := signature.parameters.map fun parameter =>
        { parameter with type := parameter.type.map change }
      result := signature.result.map change }
  | .classDef heading =>
    .classDef { heading with
      bases := heading.bases.map change
      metaclass := heading.metaclass.map change }
  | .variable info => .variable { info with type := info.type.map change }
  | .typeAlias target => .typeAlias (change target)

/-- Changes every reference in a declaration. -/
def mapReferences (change : Reference → Reference) (kind : DeclarationKind) : DeclarationKind :=
  kind.mapTypes (TypeExpr.mapReferences change)

/-- Visits the types in a declaration in the order they are written. -/
def visitTypes {m : Type → Type} [Monad m] (visit : TypeExpr → m TypeExpr) :
    DeclarationKind → m DeclarationKind
  | .function signature => do
    let parameters ← signature.parameters.mapM fun parameter => do
      let type ← parameter.type.mapM visit
      return { parameter with type := type }
    let result ← signature.result.mapM visit
    return .function { signature with parameters := parameters, result := result }
  | .classDef heading => do
    let bases ← heading.bases.mapM visit
    let metaclass ← heading.metaclass.mapM visit
    return .classDef { heading with bases := bases, metaclass := metaclass }
  | .variable info => do
    let type ← info.type.mapM visit
    return .variable { info with type := type }
  | .typeAlias target => do
    let target ← visit target
    return .typeAlias target

/-- Visits the references in a declaration in the order they are written. -/
def visitReferences {m : Type → Type} [Monad m] (visit : Reference → m Reference)
    (kind : DeclarationKind) : m DeclarationKind :=
  kind.visitTypes (TypeExpr.visitReferences visit)

end DeclarationKind

/-- The first and the last line of a declaration, each a number of 64 bits. -/
structure Span where
  first : UInt64
  last : UInt64
deriving DecidableEq, Repr, Inhabited

/-- A declaration apart from its place among others. -/
structure DeclarationBody where
  name : String
  fullname : String
  kind : DeclarationKind
  docstring : Option String
  span : Option Span
deriving DecidableEq, Repr, Inhabited

/-- A declaration in a module: the indices of the one it is declared in and of those declared
in it, in the order they were added. -/
structure Declaration extends DeclarationBody where
  parent : Option Nat
  children : List Nat
deriving DecidableEq, Repr, Inhabited

/-! ### Text -/

/-- The default of a parameter as its text shows it. -/
def Parameter.defaultText (parameter : Parameter) : String :=
  if parameter.kind.isOptional then
    (if parameter.type.isSome then " = " else "=") ++ parameter.default.getD "..."
  else ""

/-- The text of a parameter. -/
def Parameter.text (parameter : Parameter) : String :=
  let stars :=
    match parameter.kind with
    | .star => "*"
    | .doubleStar => "**"
    | _ => ""
  let type :=
    match parameter.type with
    | some type => ": " ++ type.text
    | none => ""
  stars ++ parameter.name ++ type ++ parameter.defaultText

/-- The line that shows a declaration. -/
def DeclarationBody.summary (body : DeclarationBody) : String :=
  match body.kind with
  | .function signature =>
    let opening := if signature.isAsync then "async def " else "def "
    let parameters := ", ".intercalate (signature.parameters.map Parameter.text)
    let result :=
      match signature.result with
      | some type => " -> " ++ type.text
      | none => ""
    opening ++ body.name ++ "(" ++ parameters ++ ")" ++ result
  | .classDef heading =>
    match heading.bases with
    | [] => "class " ++ body.name
    | bases => "class " ++ body.name ++ "(" ++ ", ".intercalate (bases.map TypeExpr.text) ++ ")"
  | .variable info =>
    match info.type with
    | some type => body.name ++ ": " ++ type.text
    | none => body.name
  | .typeAlias target => body.name ++ " = " ++ target.text

end Declarations
