/-
This file reads outlines out of syntax trees. Definitions and imports count where they
stand in a module or class body, or in the clauses of a conditional, of a handler of
errors or of a context; those in loops do not.
-/

import Declarations.Docstring.Margin
import Declarations.Outline.Basic
import Declarations.Source.Statements

namespace Declarations

open Source

/-! ### Docstrings -/

/-- The text of string literals side by side; none when one of them is not plain. -/
def literalsText? : List String → Option String
  | [] => some ""
  | part :: rest => do return (← Docstring.literalText? part) ++ (← literalsText? rest)

/-- The docstring of a body: a lone string literal as its first statement. -/
def docstring? : List Stmt → Option String
  | .expression (.literal text) :: _ => (Docstring.literalText? text).map Docstring.clean
  | .expression (.literals parts _) :: _ => (literalsText? parts).map Docstring.clean
  | _ => none

/-! ### Headers -/

/-- The name of a decorator: its text up to the arguments. -/
def decoratorName (text : String) : String :=
  Text.trim (String.ofList ((text.toList.dropWhile (· = '@')).takeWhile (· ≠ '(')))

/-- Reads a parameter list; `keywordOnly` tells whether a star came before. -/
def ParameterOutline.ofItems (keywordOnly : Bool) : List ParameterItem → List ParameterOutline
  | [] => []
  | item :: rest =>
    let ordinary := if keywordOnly then ParameterKind.keywordOnly else .regular
    match item with
    | .plain name => ⟨name, none, none, ordinary⟩ :: ofItems keywordOnly rest
    | .typed name hint =>
      ⟨name, some (.ofExpr hint), none, ordinary⟩ :: ofItems keywordOnly rest
    | .defaulted name hint default =>
      ⟨name, hint.map .ofExpr, some default, ordinary⟩ :: ofItems keywordOnly rest
    | .starred name hint =>
      ⟨name, hint.map .ofExpr, none, .starred⟩ :: ofItems true rest
    | .doubleStarred name hint =>
      ⟨name, hint.map .ofExpr, none, .doubleStarred⟩ :: ofItems keywordOnly rest
    | .keywordMark => ofItems true rest
    | .positionMark | .pattern => ofItems keywordOnly rest

/-- Reads a function definition. -/
def FunctionOutline.ofHeader (header : FunctionHeader) (body : List Stmt) : FunctionOutline where
  name := header.name
  docstring := docstring? body
  parameters := ParameterOutline.ofItems false header.parameters
  returns := header.returns.map .ofExpr
  decorators := header.decorators.map decoratorName
  isAsync := header.isAsync
  line := header.line
  endLine := header.endLine

/-- Reads a class header. -/
def ClassOutline.ofHeader (header : ClassHeader) (body : List Stmt) : ClassOutline where
  name := header.name
  docstring := docstring? body
  bases := header.items.filterMap fun item =>
    match item with
    | .base value => some (.ofExpr value)
    | _ => none
  keywords := header.items.filterMap fun item =>
    match item with
    | .keyword name value => some (name, .ofExpr value)
    | _ => none
  decorators := header.decorators.map decoratorName
  line := header.line
  endLine := header.endLine

/-! ### Assignments and aliases -/

/-- The value of an assignment, where it has the form of a type. -/
def valueType? : Expr → Option TypeHint
  | value@(.name _) | value@(.member _) | value@(.subscript _ _ _) | value@.absent
  | value@(.either _ _ _) => some (.ofExpr value)
  | _ => none

/-- Reads an assignment; only one to a plain name declares anything. -/
def AssignmentOutline.ofStmt? (target : Expr) (hint value : Option Expr) (line : Nat) :
    Option AssignmentOutline :=
  match target with
  | .name name =>
    some ⟨name, hint.map .ofExpr, value.map Expr.text, value.bind valueType?, line⟩
  | _ => none

/-- The name and the value of a type alias, whose statement has two expressions, or three
when something stands between them. -/
def aliasParts? : List Expr → Option (String × TypeHint)
  | [name, value] | [name, _, value] =>
    match TypeHint.ofExpr name with
    | .name name | .subscript name _ => some (name, .ofExpr value)
    | _ => none
  | _ => none

/-! ### Bodies -/

mutual

/-- The items of a statement. -/
def itemsOf : Stmt → List Item
  | .classDef header body => [.classDef (.ofHeader header body) (itemsOfBody body)]
  | .function header body => [.function (.ofHeader header body)]
  | .assignment target hint value line =>
    (AssignmentOutline.ofStmt? target hint value line).toList.map .assignment
  | .typeAlias parts line =>
    (aliasParts? parts).toList.map fun (name, value) => .typeAlias name value line
  | .clauses blocks => itemsOfBlocks blocks
  | .importing _ _ | .importingFrom _ _ _ _ | .expression _ | .loop _ | .other => []

/-- The items of a body. -/
def itemsOfBody : List Stmt → List Item
  | [] => []
  | statement :: rest => itemsOf statement ++ itemsOfBody rest

/-- The items of clauses. -/
def itemsOfBlocks : List (List Stmt) → List Item
  | [] => []
  | block :: rest => itemsOfBody block ++ itemsOfBlocks rest

end

mutual

/-- The imports of a statement. -/
def importsOf : Stmt → List Import
  | .importing names line => names.map fun name => ⟨name.name, [name], .direct, line⟩
  | .importingFrom level origin names line =>
    [⟨origin, names, if level = 0 then .origin else .relative level, line⟩]
  | .clauses blocks => importsOfBlocks blocks
  | .classDef _ _ | .function _ _ | .assignment _ _ _ _ | .typeAlias _ _ | .expression _
  | .loop _ | .other => []

/-- The imports of a body. -/
def importsOfBody : List Stmt → List Import
  | [] => []
  | statement :: rest => importsOf statement ++ importsOfBody rest

/-- The imports of clauses. -/
def importsOfBlocks : List (List Stmt) → List Import
  | [] => []
  | block :: rest => importsOfBody block ++ importsOfBlocks rest

end

/-- The outline of a file. -/
def Outline.ofBody (body : List Stmt) : Outline :=
  ⟨docstring? body, importsOfBody body, itemsOfBody body⟩

/-- The outline of a source text, or the line where the text goes wrong. -/
def Outline.read (text : String) : Except Nat Outline :=
  (Source.parse text).map Outline.ofBody

end Declarations
