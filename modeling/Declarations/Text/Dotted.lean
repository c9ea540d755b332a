/-
This file holds dotted names: the module names, fullnames and reference keys of the
graph are all parts joined by single dots, and every search over them goes through the
dotted fronts of a name, longest first.
-/

import Declarations.Characters.Letters

namespace Declarations.Dotted

/-- The parts of a dotted name; the empty text is one empty part. -/
def parts (name : String) : List String :=
  (name.toList.splitOn '.').map String.ofList

/-- Joins parts with dots. -/
def join (names : List String) : String :=
  ".".intercalate names

/-- The part before the first dot, which is the whole name when there is none. -/
def head (name : String) : String :=
  String.ofList (name.toList.takeWhile (· ≠ '.'))

/-- What follows the first part, its dot included. -/
def afterHead (name : String) : String :=
  String.ofList (name.toList.dropWhile (· ≠ '.'))

/-- The part after the last dot, which is the whole name when there is none. -/
def last (name : String) : String :=
  String.ofList (name.toList.reverse.takeWhile (· ≠ '.')).reverse

/-- The name inside a scope. -/
def below (scope name : String) : String :=
  scope ++ "." ++ name

/-- Every way to cut a text in front of a dot, shortest front first. -/
def cuts : List Char → List (List Char × List Char)
  | [] => []
  | character :: rest =>
    let deeper := (cuts rest).map fun (front, back) => (character :: front, back)
    if character = '.' then ([], character :: rest) :: deeper else deeper

/-- Every way to cut a name in front of a dot, longest front first. -/
def fronts (name : String) : List (String × String) :=
  (cuts name.toList).reverse.map fun (front, back) => (String.ofList front, String.ofList back)

/-- The name without its last part, when it has more than one. -/
def parent? (name : String) : Option String :=
  (fronts name).head?.map (·.1)

/-- What is left of `name` after `scope` and a dot. -/
def stripScope? (scope name : String) : Option String :=
  ((scope.toList ++ ['.']).isPrefixOf? name.toList).map String.ofList

/-- Whether a text is a word: a letter or underscore, then letters, digits and
underscores. -/
def isWord : List Char → Bool
  | [] => false
  | first :: rest =>
    (CharacterSet.alphabetic.contains first || first == '_') &&
      rest.all fun character =>
        CharacterSet.alphabetic.contains character || CharacterSet.numeric.contains character ||
          character == '_'

/-- Whether a text is a dotted name whose parts are words. -/
def isName (text : String) : Bool :=
  (text.toList.splitOn '.').all isWord

end Declarations.Dotted
