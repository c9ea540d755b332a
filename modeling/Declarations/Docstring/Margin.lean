/-
This file holds the cleaning of docstrings. A docstring is written inside indented
code, so the blanks that every line after the first begins with belong to the code and
not to the text. Cleaning expands tabs, removes that common margin and drops the empty
lines at both ends.
-/

import Declarations.Text.Blank

namespace Declarations.Docstring

open Text

/-- The distance between two tab stops. -/
def tabWidth : Nat := 8

/-- Replaces each tab by the spaces up to the next tab stop, counting columns from `column`.
A line end of either kind starts the count again. -/
def expandTabs : Nat → List Char → List Char
  | _, [] => []
  | column, character :: rest =>
    if character = '\t' then
      let spaces := tabWidth - column % tabWidth
      List.replicate spaces ' ' ++ expandTabs (column + spaces) rest
    else if character = '\n' ∨ character = '\r' then
      character :: expandTabs 0 rest
    else
      character :: expandTabs (column + 1) rest

/-- The width of the blanks in front of a line, in bytes of its encoding. -/
def indentation (line : List Char) : Nat :=
  ((line.takeWhile isBlank).map Char.utf8Size).foldr (· + ·) 0

/-- The least indentation of the lines that are not blank. -/
def margin? (lines : List (List Char)) : Option Nat :=
  ((lines.filter fun line => !(trimStart line).isEmpty).map indentation).min?

/-- Removes the margin: the first line loses all blanks in front of it, the others as many
characters as the margin is wide. -/
def removeMargin : List (List Char) → List (List Char)
  | [] => []
  | first :: others =>
    trimStart first ::
      match margin? others with
      | some width => others.map (List.drop width)
      | none => others

/-- Drops the empty lines at both ends. -/
def dropEmptyEnds (lines : List (List Char)) : List (List Char) :=
  ((lines.reverse.dropWhile List.isEmpty).reverse).dropWhile List.isEmpty

/-- Joins lines with line ends. -/
def joinLines (lines : List (List Char)) : List Char :=
  List.intercalate ['\n'] lines

/-- Cleans a docstring of the indentation of the code around it. -/
def clean (text : String) : String :=
  String.ofList
    (joinLines (dropEmptyEnds (removeMargin ((expandTabs 0 text.toList).splitOn '\n'))))

end Declarations.Docstring
