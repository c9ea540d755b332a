/-
This file reads type hints out of expressions: the forms that lowering understands, and
the text of everything else. A subscript in an expression spreads the tuple it is given;
a subscripted name in a type position does not.
-/

import Declarations.Docstring.Literal
import Declarations.Source.Tree
import Declarations.Text.Blank

namespace Declarations

/-- A type as it is written. -/
inductive TypeHint where
  | name (text : String)
  | subscript (base : String) (arguments : List TypeHint)
  | union (members : List TypeHint)
  | list (items : List TypeHint)
  | absent
  | ellipsis
  /-- A quoted type. -/
  | quoted (text : String)
  /-- A number, a truth value, or anything with a sign. -/
  | literal (text : String)
  | other (text : String)
deriving Repr, Inhabited

namespace TypeHint

/-- The members that a hint adds to a union. -/
def members : TypeHint → List TypeHint
  | .union members => members
  | hint => [hint]

mutual

/-- The hint that an expression, or an item in place of one, is read as. -/
def ofExpr : Source.Expr → TypeHint
  | .name text | .member text => .name (Text.compact text)
  | .absent => .absent
  | .ellipsis => .ellipsis
  | .literal text =>
    match Docstring.literalText? text with
    | some value => .quoted value
    | none => .other text
  | .constant text => .literal (Text.compact text)
  | .subscript base items _ => .subscript (Text.compact base) (spreading items)
  | .generic base items _ => .subscript (Text.compact base) (ofItems items)
  | .either left right _ => .union ((ofExpr left).members ++ (ofExpr right).members)
  | .choice items _ => .union (membersOf items)
  | .list items _ => .list (ofItems items)
  | .group items text =>
    match ofFirst items with
    | some inner => inner
    | none => .other (Text.compact text)
  | .continuation => .other "\\"
  | .literals _ text | .tuple _ text | .starred _ text | .entry text | .comment text
  | .other text => .other (Text.compact text)

/-- Reads every item. -/
def ofItems : List Source.Expr → List TypeHint
  | [] => []
  | item :: rest => ofExpr item :: ofItems rest

/-- Reads every item, and the items of a tuple in place of the tuple. -/
def spreading : List Source.Expr → List TypeHint
  | [] => []
  | .tuple items _ :: rest => ofItems items ++ spreading rest
  | item :: rest => ofExpr item :: spreading rest

/-- The members that all items add to a union. -/
def membersOf : List Source.Expr → List TypeHint
  | [] => []
  | item :: rest => (ofExpr item).members ++ membersOf rest

/-- Reads the first item that is no comment. -/
def ofFirst : List Source.Expr → Option TypeHint
  | [] => none
  | .comment _ :: rest => ofFirst rest
  | item :: _ => some (ofExpr item)

end

mutual

/-- The text of a hint, written in one way whatever way it was read from. -/
def text : TypeHint → String
  | .name spelling => spelling
  | .subscript base arguments => base ++ "[" ++ ", ".intercalate (texts arguments) ++ "]"
  | .union members => " | ".intercalate (texts members)
  | .list items => "[" ++ ", ".intercalate (texts items) ++ "]"
  | .absent => "None"
  | .ellipsis => "..."
  | .quoted value => "'" ++ value ++ "'"
  | .literal spelling | .other spelling => spelling

/-- The texts of hints. -/
def texts : List TypeHint → List String
  | [] => []
  | hint :: rest => text hint :: texts rest

end

end TypeHint

end Declarations
