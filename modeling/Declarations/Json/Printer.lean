/-
This file writes JSON values as text, on one line or indented. A quote, a backslash and
the control characters are escaped, and everything else is written as it is.
-/

import Declarations.Json.Value

namespace Declarations.Json

/-- The digits of the escapes. -/
def hexDigit (value : Nat) : Char :=
  if value < 10 then Char.ofNat (48 + value) else Char.ofNat (87 + value)

/-- One character inside a written text. -/
def escape (character : Char) : List Char :=
  if character = '"' then ['\\', '"']
  else if character = '\\' then ['\\', '\\']
  else if character = '\x08' then ['\\', 'b']
  else if character = '\x0c' then ['\\', 'f']
  else if character = '\n' then ['\\', 'n']
  else if character = '\r' then ['\\', 'r']
  else if character = '\t' then ['\\', 't']
  else if character.toNat < 32 then
    ['\\', 'u', '0', '0', hexDigit (character.toNat / 16), hexDigit (character.toNat % 16)]
  else [character]

/-- A text between quotes. -/
def quote (text : String) : String :=
  String.ofList ('"' :: text.toList.flatMap escape ++ ['"'])

/-- A binary number: with digits around a point where the point stands at most 16 digits
from the left end or 4 zeros before the first digit, and with an exponent elsewhere. -/
def decimalText (number : Binary64) : String :=
  let sign := if number.negative then "-" else ""
  if number.significand = 0 then sign ++ "0.0"
  else
    let (digits, power) := number.shortest
    let shown := (toString digits).toList
    let place : Int := shown.length + power
    let zeros (count : Int) : List Char := List.replicate count.toNat '0'
    let body : List Char :=
      if 0 < place ∧ place ≤ 16 then
        if power ≥ 0 then shown ++ zeros power ++ ['.', '0']
        else shown.take place.toNat ++ '.' :: shown.drop place.toNat
      else if -5 < place ∧ place ≤ 0 then
        '0' :: '.' :: zeros (-place) ++ shown
      else
        let mantissa :=
          match shown with
          | first :: second :: rest => first :: '.' :: second :: rest
          | short => short
        let exponent := place - 1
        mantissa ++ ['e', if exponent < 0 then '-' else '+'] ++
          (toString exponent.natAbs).toList
    sign ++ String.ofList body

/-- The start of a line inside so many brackets, two blanks further in for each. On one line
there is nothing between entries. -/
def newLine (indented : Bool) (depth : Nat) : String :=
  if indented then "\n" ++ String.ofList (List.replicate (2 * depth) ' ') else ""

/-- What stands between a name and its value. -/
def colon (indented : Bool) : String :=
  if indented then ": " else ":"

/-- Entries between brackets, which touch when there is none. -/
def enclose (indented : Bool) (opening closing : String) (depth : Nat) : List String → String
  | [] => opening ++ closing
  | entries =>
    opening ++ newLine indented (depth + 1) ++
      ("," ++ newLine indented (depth + 1)).intercalate entries ++ newLine indented depth ++ closing

mutual

/-- A value inside so many brackets, with an entry a line where it is indented. -/
def write (indented : Bool) (depth : Nat) : Json → String
  | .null => "null"
  | .bool value => if value then "true" else "false"
  | .integer value => toString value
  | .decimal value => decimalText value
  | .text value => quote value
  | .list items => enclose indented "[" "]" depth (writeItems indented depth items)
  | .object fields => enclose indented "\x7b" "\x7d" depth (writeFields indented depth fields)

/-- The items of a list at `depth`, each on its own. -/
def writeItems (indented : Bool) (depth : Nat) : List Json → List String
  | [] => []
  | item :: rest => write indented (depth + 1) item :: writeItems indented depth rest

/-- The fields of an object at `depth`, each with its name. -/
def writeFields (indented : Bool) (depth : Nat) : List (String × Json) → List String
  | [] => []
  | (name, value) :: rest =>
    (quote name ++ colon indented ++ write indented (depth + 1) value) ::
      writeFields indented depth rest

end

/-- A value as text, indented or on one line. -/
def render (indented : Bool) (value : Json) : String :=
  write indented 0 value

/-- A value on one line, without blanks. -/
def compress (value : Json) : String :=
  render false value

/-- A value with an entry a line. -/
def pretty (value : Json) : String :=
  render true value

end Declarations.Json
