/-
This file holds the syntax trees of source files. A tree keeps what declarations can be
read from: definitions with their headers, imports, assignments to names, and the
expressions in type positions. Every expression knows its text, and one whose inside no
declaration depends on is nothing but its text.
-/

namespace Declarations.Source

/-- An expression, or what may stand among the items of a bracket in place of one. -/
inductive Expr where
  /-- A plain name. -/
  | name (text : String)
  /-- An attribute of anything. -/
  | member (text : String)
  /-- The word for the absent value. -/
  | absent
  /-- Three dots. -/
  | ellipsis
  /-- A string literal of any kind. -/
  | literal (text : String)
  /-- String literals side by side. -/
  | literals (parts : List String) (text : String)
  /-- A number or a truth value, or anything with a sign. -/
  | constant (text : String)
  /-- A subscript in an expression. -/
  | subscript (base : String) (items : List Expr) (text : String)
  /-- A subscripted name in a type position. -/
  | generic (base : String) (items : List Expr) (text : String)
  /-- Two expressions joined by a bar. -/
  | either (left right : Expr) (text : String)
  /-- Alternatives in a type position, with the fillers around the bars. -/
  | choice (items : List Expr) (text : String)
  /-- A list. -/
  | list (items : List Expr) (text : String)
  /-- A tuple, in parentheses. -/
  | tuple (items : List Expr) (text : String)
  /-- One expression in parentheses, with the fillers around it. -/
  | group (items : List Expr) (text : String)
  /-- A starred expression. -/
  | starred (inner : Expr) (text : String)
  /-- A key with its value between braces, or a mapping spread there. -/
  | entry (text : String)
  /-- A comment among the items of a bracket. -/
  | comment (text : String)
  /-- A line continuation among the items of a bracket. -/
  | continuation
  /-- Any other expression. -/
  | other (text : String)
deriving Repr, Inhabited

/-- The text of an expression. -/
def Expr.text : Expr → String
  | .name text | .member text | .literal text | .literals _ text | .constant text
  | .subscript _ _ text | .generic _ _ text | .either _ _ text | .choice _ text | .list _ text
  | .tuple _ text | .group _ text | .starred _ text | .entry text | .comment text
  | .other text => text
  | .absent => "None"
  | .ellipsis => "..."
  | .continuation => "\\"

/-- Whether an item of a bracket is a comment. -/
def Expr.isComment : Expr → Bool
  | .comment _ => true
  | _ => false

/-- Whether an item of a bracket is no expression. -/
def Expr.isFiller : Expr → Bool
  | .comment _ | .continuation => true
  | _ => false

/-- Whether an item of a bracket is an entry of a mapping. -/
def Expr.isEntry : Expr → Bool
  | .entry _ => true
  | _ => false

/-- Whether an expression is a starred one. -/
def Expr.isStarred : Expr → Bool
  | .starred _ _ => true
  | _ => false

mutual

/-- Whether a value may be assigned to an expression. -/
def Expr.isTarget : Expr → Bool
  | .name _ | .member _ | .subscript _ _ _ => true
  | .starred inner _ => inner.isTarget
  | .list items _ | .tuple items _ | .group items _ => Expr.areTargets items
  | .comment _ | .continuation => true
  | _ => false

/-- Whether values may be assigned to all items of a bracket. -/
def Expr.areTargets : List Expr → Bool
  | [] => true
  | item :: rest => item.isTarget && Expr.areTargets rest

end

/-- A name that an import statement brings in, and the name given to it. -/
structure ImportedName where
  name : String
  asName : Option String
deriving DecidableEq, Repr

/-- An entry of a parameter list. -/
inductive ParameterItem where
  | plain (name : String)
  | typed (name : String) (hint : Expr)
  | defaulted (name : String) (hint : Option Expr) (default : String)
  | starred (name : String) (hint : Option Expr)
  | doubleStarred (name : String) (hint : Option Expr)
  /-- A star on its own: what follows is given by keyword. -/
  | keywordMark
  /-- A slash: what comes before is given by position. -/
  | positionMark
  /-- A tuple of names in place of one. -/
  | pattern
deriving Repr

/-- An entry in the parentheses of a class header. -/
inductive ClassItem where
  | base (value : Expr)
  | keyword (name : String) (value : Expr)
  | spread
deriving Repr

/-- The header of a function definition, its decorators and its place. -/
structure FunctionHeader where
  name : String
  parameters : List ParameterItem
  returns : Option Expr
  decorators : List String
  isAsync : Bool
  line : Nat
  endLine : Nat
deriving Repr

/-- The header of a class definition, its decorators and its place. -/
structure ClassHeader where
  name : String
  items : List ClassItem
  decorators : List String
  line : Nat
  endLine : Nat
deriving Repr

/-- A statement. -/
inductive Stmt where
  /-- Modules imported by name. -/
  | importing (names : List ImportedName) (line : Nat)
  /-- Names imported from a module: `level` counts the dots in front of it. -/
  | importingFrom (level : Nat) (origin : String) (names : List ImportedName) (line : Nat)
  /-- An expression as a statement, without a comma after it. -/
  | expression (value : Expr)
  /-- An assignment, a declaration with a type, or both. -/
  | assignment (target : Expr) (hint value : Option Expr) (line : Nat)
  /-- A type alias: the expressions of the statement in order, and fillers among them. -/
  | typeAlias (parts : List Expr) (line : Nat)
  | function (header : FunctionHeader) (body : List Stmt)
  | classDef (header : ClassHeader) (body : List Stmt)
  /-- A conditional, a handler of errors or a context: the blocks of its clauses. -/
  | clauses (blocks : List (List Stmt))
  /-- A loop or a match: the blocks of its clauses. -/
  | loop (blocks : List (List Stmt))
  /-- A statement that declares nothing. -/
  | other
deriving Repr

end Declarations.Source
