/-
This file says what text a string literal of a source file stands for. Only plain
literals have a text here: one with an `f` or a `b` among its leading letters is no
documentation.
-/

namespace Declarations.Docstring

/-- Resolves the common escapes; an unknown one is kept as written, and a backslash at the
end of a line joins it with the next. -/
def unescape : List Char → List Char
  | '\\' :: 'n' :: rest => '\n' :: unescape rest
  | '\\' :: 't' :: rest => '\t' :: unescape rest
  | '\\' :: 'r' :: rest => '\r' :: unescape rest
  | '\\' :: '0' :: rest => '\x00' :: unescape rest
  | '\\' :: '\\' :: rest => '\\' :: unescape rest
  | '\\' :: '\'' :: rest => '\'' :: unescape rest
  | '\\' :: '"' :: rest => '"' :: unescape rest
  | '\\' :: '\n' :: rest => unescape rest
  | '\\' :: other :: rest => '\\' :: other :: unescape rest
  | character :: rest => character :: unescape rest
  | [] => []

/-- The text between the quotes of a literal, triple quotes first. -/
def unquote (literal : List Char) : Option (List Char) :=
  let triple := ['"', '"', '"'].isPrefixOf literal || ['\'', '\'', '\''].isPrefixOf literal
  let single := ['"'].isPrefixOf literal || ['\''].isPrefixOf literal
  if triple && literal.length ≥ 6 then some ((literal.drop 3).take (literal.length - 6))
  else if single && literal.length ≥ 2 then some ((literal.drop 1).take (literal.length - 2))
  else none

/-- The text of a plain string literal; none for formatted and byte literals. -/
def literalText? (literal : String) : Option String :=
  let letters := (literal.toList.takeWhile Char.isAlpha).map Char.toLower
  if letters.contains 'f' || letters.contains 'b' then none
  else
    (unquote (literal.toList.dropWhile Char.isAlpha)).map fun body =>
      String.ofList (if letters.contains 'r' then body else unescape body)

end Declarations.Docstring
