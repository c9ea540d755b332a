/-
This file holds outlines: what a source file declares and imports, with all names as
they are written. Binding the names is left to lowering.
-/

import Declarations.Outline.TypeHint
import Declarations.Text.Dotted

namespace Declarations

/-- How an import statement names its module. A relative one counts the dots. -/
inductive ImportKind where
  | direct
  | origin
  | relative (level : Nat)
deriving DecidableEq, Repr

/-- A name brought in by an import, and the name it is given. -/
abbrev ImportedName := Source.ImportedName

/-- The name under which an import is used. -/
def ImportedName.used (name : ImportedName) : String :=
  name.asName.getD name.name

/-- An import of one module, or of names from one. -/
structure Import where
  origin : String
  names : List ImportedName
  kind : ImportKind
  line : Nat
deriving DecidableEq, Repr

/-- Whether every name is imported. -/
def Import.isWildcard (entry : Import) : Bool :=
  entry.names.any fun name => name.name == "*"

/-- How an argument reaches a parameter. -/
inductive ParameterKind where
  | regular
  | starred
  | doubleStarred
  | keywordOnly
deriving DecidableEq, Repr

/-- A parameter as it is written. -/
structure ParameterOutline where
  name : String
  hint : Option TypeHint
  default : Option String
  kind : ParameterKind
deriving Repr

/-- A function as it is written. -/
structure FunctionOutline where
  name : String
  docstring : Option String
  parameters : List ParameterOutline
  returns : Option TypeHint
  decorators : List String
  isAsync : Bool
  line : Nat
  endLine : Nat
deriving Repr

/-- The header of a class as it is written. -/
structure ClassOutline where
  name : String
  docstring : Option String
  bases : List TypeHint
  keywords : List (String × TypeHint)
  decorators : List String
  line : Nat
  endLine : Nat
deriving Repr

/-- An assignment to a plain name. `valueType` is the value where it has the form of a type. -/
structure AssignmentOutline where
  target : String
  hint : Option TypeHint
  value : Option String
  valueType : Option TypeHint
  line : Nat
deriving Repr

/-- A declaration as it is written. -/
inductive Item where
  | classDef (header : ClassOutline) (body : List Item)
  | function (outline : FunctionOutline)
  | assignment (outline : AssignmentOutline)
  | typeAlias (name : String) (value : TypeHint) (line : Nat)
deriving Repr

/-- The name that an item declares. -/
def Item.name : Item → String
  | .classDef header _ => header.name
  | .function outline => outline.name
  | .assignment outline => outline.target
  | .typeAlias name _ _ => name

/-- What a file declares and imports. -/
structure Outline where
  docstring : Option String
  imports : List Import
  items : List Item
deriving Repr

/-! ### Facts read off decorators and keywords -/

/-- The metaclass given in a class header. -/
def ClassOutline.metaclass? (header : ClassOutline) : Option TypeHint :=
  header.keywords.lookup "metaclass"

/-- Whether a function has a decorator of a name, in any module. -/
def FunctionOutline.hasDecorator (outline : FunctionOutline) (name : String) : Bool :=
  outline.decorators.any fun decorator => decorator == name || Dotted.last decorator == name

/-- Whether a function is read like an attribute. -/
def FunctionOutline.isProperty (outline : FunctionOutline) : Bool :=
  outline.hasDecorator "property" ||
    outline.decorators.any fun decorator => decorator.endsWith ".getter"

/-- Whether a function takes its class in place of an instance. -/
def FunctionOutline.isClassMethod (outline : FunctionOutline) : Bool :=
  outline.hasDecorator "classmethod"

/-- Whether a function takes neither class nor instance. -/
def FunctionOutline.isStaticMethod (outline : FunctionOutline) : Bool :=
  outline.hasDecorator "staticmethod"

/-- Whether a function is one of several signatures of the same name. -/
def FunctionOutline.isOverload (outline : FunctionOutline) : Bool :=
  outline.hasDecorator "overload"

end Declarations
