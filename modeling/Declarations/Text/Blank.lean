/-
This file holds what the project does with blank characters: dropping them in front of
a text, at both ends, or everywhere.
-/

import Declarations.Characters.Blank

namespace Declarations.Text

/-- Whether a character counts as blank, in any script. -/
def isBlank (character : Char) : Bool :=
  CharacterSet.blank.contains character

/-- The text without the blanks in front of it. -/
def trimStart (text : List Char) : List Char :=
  text.dropWhile isBlank

/-- The text without the blanks at its end. -/
def trimEnd (text : List Char) : List Char :=
  (text.reverse.dropWhile isBlank).reverse

/-- The text without the blanks at its ends. -/
def trim (text : String) : String :=
  String.ofList (trimEnd (trimStart text.toList))

/-- The text without any blank, inside or at its ends. -/
def compact (text : String) : String :=
  String.ofList (text.toList.filter fun character => !isBlank character)

end Declarations.Text
