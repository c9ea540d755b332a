/-
This file shows a text between quotes in such a way that every character of it can be
told apart on a screen: control characters, characters without a visible form and those
that join the character before them are written by their code points.
-/

import Declarations.Characters.Printable

namespace Declarations.Quoted

/-- The digits of a number to the base sixteen. -/
def hexDigits (value : Nat) : List Char :=
  Nat.toDigits 16 value

/-- One character between the quotes. -/
def escape (character : Char) : List Char :=
  if character = '\x00' then ['\\', '0']
  else if character = '\t' then ['\\', 't']
  else if character = '\n' then ['\\', 'n']
  else if character = '\r' then ['\\', 'r']
  else if character = '"' then ['\\', '"']
  else if character = '\\' then ['\\', '\\']
  else if CharacterSet.extending.contains character ∨
      !CharacterSet.printable.contains character then
    ['\\', 'u', '\x7b'] ++ hexDigits character.toNat ++ ['\x7d']
  else [character]

/-- A text between quotes. -/
def inQuotes (text : String) : String :=
  String.ofList ('"' :: text.toList.flatMap escape ++ ['"'])

end Declarations.Quoted
