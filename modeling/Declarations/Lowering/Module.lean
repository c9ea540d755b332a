/-
This file lowers the outline of a file to a module: every declaration is added to the
module in the order it is written, a class before what is declared in it, with the names
in its types bound.
-/

import Declarations.Lowering.Types

namespace Declarations

namespace LoweringContext

variable (context : LoweringContext)

/-! ### Declarations -/

/-- A text that is kept only together with the lines. -/
def preserved (text : Option String) : Option String :=
  if context.options.preserveAsts then text else none

/-- A docstring, if docstrings are kept. -/
def documented (docstring : Option String) : Option String :=
  if context.options.includeDocstrings then docstring else none

/-- The lines of a declaration, if lines are kept. -/
def span (first last : Nat) : Option Span :=
  if context.options.preserveAsts then some ⟨.ofNat first, .ofNat last⟩ else none

/-- The kind of a parameter, which the stars before it and its default decide. -/
def argumentKind (kind : ParameterKind) (hasDefault : Bool) : ArgumentKind :=
  match kind with
  | .regular => if hasDefault then .optional else .positional
  | .starred => .star
  | .doubleStarred => .doubleStar
  | .keywordOnly => if hasDefault then .namedOptional else .named

/-- Lowers a parameter. -/
def parameter (outline : ParameterOutline) : Parameter where
  name := outline.name
  kind := argumentKind outline.kind outline.default.isSome
  type := outline.hint.map context.typeOf
  default := context.preserved outline.default

/-- Lowers a function. -/
def function (scope : String) (outline : FunctionOutline) : DeclarationBody where
  name := outline.name
  fullname := Dotted.below scope outline.name
  kind := .function {
    parameters := outline.parameters.map context.parameter
    result := outline.returns.map context.typeOf
    isAsync := outline.isAsync
    decorators := outline.decorators
    isStatic := outline.isStaticMethod
    isClass := outline.isClassMethod
    isProperty := outline.isProperty
    isOverload := outline.isOverload }
  docstring := context.documented outline.docstring
  span := context.span outline.line outline.endLine

/-- Lowers a class header. -/
def classHeading (scope : String) (outline : ClassOutline) : DeclarationBody where
  name := outline.name
  fullname := Dotted.below scope outline.name
  kind := .classDef {
    bases := outline.bases.map context.typeOf
    metaclass := outline.metaclass?.map context.typeOf
    decorators := outline.decorators }
  docstring := context.documented outline.docstring
  span := context.span outline.line outline.endLine

/-- Lowers the hint of a variable: the forms for class variables and final ones are marks on
the variable, and what they are given is its type. -/
def variableOf (value : Option String) : TypeHint → Variable
  | hint@(.name name) =>
    match context.bind name with
    | .special "ClassVar" => ⟨none, false, true, value⟩
    | .special "Final" => ⟨none, true, false, value⟩
    | _ => ⟨some (context.typeOf hint), false, false, value⟩
  | hint@(.subscript base arguments) =>
    match context.bind base, arguments with
    | .special "ClassVar", inner :: _ => { variableOf value inner with isClassVariable := true }
    | .special "ClassVar", [] => ⟨none, false, true, value⟩
    | .special "Final", inner :: _ => { variableOf value inner with isFinal := true }
    | .special "Final", [] => ⟨none, true, false, value⟩
    | _, _ => ⟨some (context.typeOf hint), false, false, value⟩
  | hint => ⟨some (context.typeOf hint), false, false, value⟩

mutual

/-- Whether an assigned value reads like a type alias: a subscripted builtin or form, or a
union of types. -/
def looksLikeAlias : TypeHint → Bool
  | .subscript base _ =>
    match context.bind base with
    | .key _ => false
    | _ => true
  | .union members => membersLookLikeAlias members
  | _ => false

/-- Whether every member of a union reads like a type. -/
def membersLookLikeAlias : List TypeHint → Bool
  | [] => true
  | member :: rest =>
    (match member with
      | .absent => true
      | .name name =>
        (match context.bind name with
          | .key _ => false
          | _ => true) ||
          (Dotted.last name).toList.head?.any CharacterSet.uppercase.contains
      | hint => looksLikeAlias hint) && membersLookLikeAlias rest

end

/-- Lowers an assignment. At the top of a module one that reads like a type alias is one. -/
def assignment (isTop : Bool) (scope : String) (outline : AssignmentOutline) :
    DeclarationBody where
  name := outline.target
  fullname := Dotted.below scope outline.target
  kind :=
    let value := context.preserved outline.value
    let isDeclaredAlias : Bool :=
      match outline.hint with
      | some (.name name) => context.bind name == .special "TypeAlias"
      | _ => false
    if isDeclaredAlias then
      .typeAlias
        (match outline.valueType with
          | some target => context.typeOf target
          | none => .unknown (outline.value.getD ""))
    else
      match outline.hint, outline.valueType with
      | some hint, _ => .variable (context.variableOf value hint)
      | none, some target =>
        if isTop ∧ context.looksLikeAlias target then .typeAlias (context.typeOf target)
        else .variable ⟨none, false, false, value⟩
      | none, none => .variable ⟨none, false, false, value⟩
  docstring := none
  span := context.span outline.line outline.line

/-- Lowers a statement that declares a type alias. -/
def typeAlias (scope name : String) (value : TypeHint) (line : Nat) : DeclarationBody where
  name := name
  fullname := Dotted.below scope name
  kind := .typeAlias (context.typeOf value)
  docstring := none
  span := context.span line line

end LoweringContext

/-! ### Bodies and modules -/

mutual

/-- Adds the declarations of one item below a parent. -/
def Module.addItem (context : LoweringContext) (parent : Option Nat) (scope : String) :
    Item → Module → Module
  | .classDef header body, module =>
    let heading := context.classHeading scope header
    let index := module.declarations.length
    let inner := context.enter (Scope.ofItems heading.fullname body)
    Module.addItems inner (some index) heading.fullname [] body (module.add parent heading)
  | .function outline, module => module.add parent (context.function scope outline)
  | .assignment outline, module =>
    module.add parent (context.assignment parent.isNone scope outline)
  | .typeAlias name value line, module =>
    module.add parent (context.typeAlias scope name value line)

/-- Adds the declarations of a body in order. Only the first assignment to a name declares it;
`assigned` holds the names assigned before. -/
def Module.addItems (context : LoweringContext) (parent : Option Nat) (scope : String)
    (assigned : List String) : List Item → Module → Module
  | [], module => module
  | item :: rest, module =>
    match item with
    | .assignment outline =>
      if assigned.contains outline.target then
        Module.addItems context parent scope assigned rest module
      else
        Module.addItems context parent scope (outline.target :: assigned) rest
          (Module.addItem context parent scope item module)
    | _ =>
      Module.addItems context parent scope assigned rest
        (Module.addItem context parent scope item module)

end

/-- Lowers the outline of a file to the module of a name. -/
def Module.ofOutline (options : LoweringOptions) (name : String) (path : Path)
    (outline : Outline) : Module :=
  let isPackage := path.stem? == some "__init__"
  let bindings := ImportBindings.ofImports name isPackage outline.imports
  let context : LoweringContext := ⟨options, bindings, [Scope.ofItems name outline.items]⟩
  let start : Module := { Module.skeleton name path with
    docstring := context.documented outline.docstring
    isPackage := isPackage
    imports := bindings.table }
  Module.addItems context none name [] outline.items start

end Declarations
