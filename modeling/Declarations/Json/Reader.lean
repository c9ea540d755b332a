/-
This file reads JSON values from text. A text that is no JSON is refused with the cause
and the place where reading stopped, so that the caller can tell a text that ends too
early from one that is wrong. Brackets may nest 127 deep. A text may be read as a whole,
and then a repeated field keeps its last value. Or a plan says which parts of it are read:
then the fields stay as they were written, and what is no part is skipped, where it only
has to be formed like a value.
-/

import Declarations.Json.Value

namespace Declarations.Json

/-! ### Why a text is refused -/

/-- The causes for refusing a text. -/
inductive ReadCause where
  | endInList
  | endInObject
  | endInText
  | endInValue
  | noColon
  | noListSeparator
  | noObjectSeparator
  | badWord
  | noValue
  | badEscape
  | badNumber
  | greatNumber
  | controlCharacter
  | nameNoText
  | loneSurrogate
  | endInSurrogate
  | extraComma
  | extraText
  | tooDeep
deriving DecidableEq, Repr

/-- The words for a cause. -/
def ReadCause.message : ReadCause → String
  | .endInList => "EOF while parsing a list"
  | .endInObject => "EOF while parsing an object"
  | .endInText => "EOF while parsing a string"
  | .endInValue => "EOF while parsing a value"
  | .noColon => "expected `:`"
  | .noListSeparator => "expected `,` or `]`"
  | .noObjectSeparator => "expected `,` or `\x7d`"
  | .badWord => "expected ident"
  | .noValue => "expected value"
  | .badEscape => "invalid escape"
  | .badNumber => "invalid number"
  | .greatNumber => "number out of range"
  | .controlCharacter =>
    "control character (\\u0000-\\u001F) found while parsing a string"
  | .nameNoText => "key must be a string"
  | .loneSurrogate => "lone leading surrogate in hex escape"
  | .endInSurrogate => "unexpected end of hex escape"
  | .extraComma => "trailing comma"
  | .extraText => "trailing characters"
  | .tooDeep => "recursion limit exceeded"

/-- Whether the text ended too early, so that more text could mend it. -/
def ReadCause.isEnd : ReadCause → Bool
  | .endInList | .endInObject | .endInText | .endInValue => true
  | _ => false

/-- A refusal: its cause, the line, and the bytes of that line up to it. -/
structure ReadError where
  cause : ReadCause
  line : Nat
  column : Nat
deriving DecidableEq, Repr

/-- The words for a refusal. -/
def ReadError.message (error : ReadError) : String :=
  s!"{error.cause.message} at line {error.line} column {error.column}"

/-! ### A place in the text -/

/-- What is left to read, and the line and the bytes of it that were read. -/
structure ReadPlace where
  rest : List Char
  line : Nat
  column : Nat

namespace ReadPlace

/-- The start of a text. -/
def start (text : String) : ReadPlace :=
  ⟨text.toList, 1, 0⟩

/-- The place after one more character. -/
def after (place : ReadPlace) (character : Char) (rest : List Char) : ReadPlace :=
  if character = '\n' then ⟨rest, place.line + 1, 0⟩
  else ⟨rest, place.line, place.column + character.utf8Size⟩

/-- The place after the next character, if there is one. -/
def next (place : ReadPlace) : ReadPlace :=
  match place.rest with
  | [] => place
  | character :: rest => place.after character rest

/-- A refusal of what was read. -/
def refuse {α : Type} (place : ReadPlace) (cause : ReadCause) : Except ReadError α :=
  .error ⟨cause, place.line, place.column⟩

/-- A refusal of the character that comes next, which is counted as one byte. -/
def refuseNext {α : Type} (place : ReadPlace) (cause : ReadCause) : Except ReadError α :=
  match place.rest with
  | [] => .error ⟨cause, place.line, place.column⟩
  | '\n' :: _ => .error ⟨cause, place.line + 1, 0⟩
  | _ => .error ⟨cause, place.line, place.column + 1⟩

/-- Skips blanks, tabs and line ends. -/
def skipBlanks (place : ReadPlace) : ReadPlace :=
  go place.rest place
where
  /-- Skips along the characters that are left. -/
  go : List Char → ReadPlace → ReadPlace
    | [], place => place
    | character :: rest, place =>
      if character = ' ' ∨ character = '\n' ∨ character = '\t' ∨ character = '\r' then
        go rest (place.after character rest)
      else place

end ReadPlace

/-! ### Words, numbers and texts -/

/-- Reads the remaining characters of a word. -/
def readWord : List Char → ReadPlace → Except ReadError ReadPlace
  | [], place => .ok place
  | expected :: others, place =>
    match place.rest with
    | [] => place.refuse .endInValue
    | character :: rest =>
      let place := place.after character rest
      if character = expected then readWord others place else place.refuse .badWord

/-- The value of a decimal digit. -/
def digitValue (character : Char) : Nat :=
  character.toNat - 48

/-- The least number that a significand cannot reach. -/
def significandLimit : Nat := Nat.pow 2 64

/-- The least number that is too great for an exponent. -/
def exponentLimit : Nat := Nat.pow 2 31

/-- Takes digits into a significand while it stays below the limit. Gives the significand,
the count of digits taken, and whether a digit had to be left. -/
def takeDigits : List Char → Nat → Nat → ReadPlace → Nat × Nat × Bool × ReadPlace
  | [], significand, count, place => (significand, count, false, place)
  | character :: rest, significand, count, place =>
    if character.isDigit then
      let grown := significand * 10 + digitValue character
      if grown < significandLimit then
        takeDigits rest grown (count + 1) (place.after character rest)
      else (significand, count, true, place)
    else (significand, count, false, place)

/-- Skips digits and counts them. -/
def skipDigits : List Char → Nat → ReadPlace → Nat × ReadPlace
  | [], count, place => (count, place)
  | character :: rest, count, place =>
    if character.isDigit then skipDigits rest (count + 1) (place.after character rest)
    else (count, place)

/-- Divides by `10 ^ power`, by at most `10 ^ 308` at a time, until nothing is left of the
number. -/
def scaleDown? : Nat → Binary64 → Nat → Option Binary64
  | 0, number, _ => some number
  | steps + 1, number, power =>
    if number.significand = 0 then some number
    else if power ≤ 308 then (Binary64.ofNat? (Nat.pow 10 power)).bind number.div?
    else
      ((Binary64.ofNat? (Nat.pow 10 308)).bind number.div?).bind fun number =>
        scaleDown? steps number (power - 308)

/-- The number `significand * 10 ^ power`: the significand is rounded first, then its product
with, or quotient by, a rounded power of ten. -/
def scaleDecimal? (significand : Nat) (power : Int) : Option Binary64 :=
  (Binary64.ofNat? significand).bind fun number =>
    if significand = 0 then some number
    else if power < 0 then scaleDown? 4 number power.natAbs
    else if power > 308 then none
    else (Binary64.ofNat? (Nat.pow 10 power.toNat)).bind number.mul?

/-- A decimal that was read up to `place`. -/
def finishDecimal (negative : Bool) (significand : Nat) (power : Int) (place : ReadPlace) :
    Except ReadError (Json × ReadPlace) :=
  match scaleDecimal? significand power with
  | some number => .ok (.decimal { number with negative := negative }, place)
  | none => place.refuse .greatNumber

/-- Reads the exponent after its letter. -/
def readExponent (negative : Bool) (significand : Nat) (power : Int) (place : ReadPlace) :
    Except ReadError (Json × ReadPlace) :=
  let place := place.next
  let (down, place) :=
    match place.rest with
    | '+' :: _ => (false, place.next)
    | '-' :: _ => (true, place.next)
    | _ => (false, place)
  match place.rest with
  | [] => place.refuse .endInValue
  | character :: rest =>
    if character.isDigit then
      let digits := (character :: rest).takeWhile Char.isDigit
      let (_, place) := skipDigits place.rest 0 place
      let size := digits.foldl (fun total digit => total * 10 + digitValue digit) 0
      if size ≥ exponentLimit then
        if significand ≠ 0 ∧ !down then place.refuse .greatNumber
        else .ok (.decimal ⟨negative, 0, Binary64.leastExponent⟩, place)
      else finishDecimal negative significand (if down then power - size else power + size) place
    else (place.after character rest).refuse .badNumber

/-- Reads an exponent if one comes next, and finishes the decimal otherwise. -/
def readOptionalExponent (negative : Bool) (significand : Nat) (power : Int)
    (place : ReadPlace) : Except ReadError (Json × ReadPlace) :=
  match place.rest with
  | 'e' :: _ | 'E' :: _ => readExponent negative significand power place
  | _ => finishDecimal negative significand power place

/-- Reads the digits after the point. -/
def readFraction (negative : Bool) (significand : Nat) (power : Int) (place : ReadPlace) :
    Except ReadError (Json × ReadPlace) :=
  let place := place.next
  let (significand, count, full, place) := takeDigits place.rest significand 0 place
  if full then
    readOptionalExponent negative significand (power - count) (skipDigits place.rest 0 place).2
  else if count = 0 then
    if place.rest.isEmpty then place.refuseNext .endInValue else place.refuseNext .badNumber
  else readOptionalExponent negative significand (power - count) place

/-- The least integer that is kept as one. -/
def leastInteger : Int := -(Nat.pow 2 63 : Nat)

/-- Reads a number after its sign. Integers that no 64 bits hold become decimals, and so
does a negative zero. -/
def readNumber (negative : Bool) (place : ReadPlace) : Except ReadError (Json × ReadPlace) :=
  match place.rest with
  | [] => place.refuse .endInValue
  | character :: rest =>
    if character.isDigit then
      let (significand, _, full, after) := takeDigits place.rest 0 0 place
      if character = '0' ∧ (rest.head?.any Char.isDigit) then place.next.refuseNext .badNumber
      else
        let (dropped, after) := if full then skipDigits after.rest 0 after else (0, after)
        match after.rest with
        | '.' :: _ => readFraction negative significand dropped after
        | 'e' :: _ | 'E' :: _ => readExponent negative significand dropped after
        | _ =>
          if full then finishDecimal negative significand dropped after
          else if negative then
            if significand = 0 ∨ -(significand : Int) < leastInteger then
              finishDecimal true significand 0 after
            else .ok (.integer (-(significand : Int)), after)
          else .ok (.integer significand, after)
    else (place.after character rest).refuse .badNumber

/-- The value of a hexadecimal digit. -/
def hexValue? (character : Char) : Option Nat :=
  if character.isDigit then some (character.toNat - 48)
  else if 'a' ≤ character ∧ character ≤ 'f' then some (character.toNat - 87)
  else if 'A' ≤ character ∧ character ≤ 'F' then some (character.toNat - 55)
  else none

/-- Reads the four digits of an escape. -/
def readHex (place : ReadPlace) : Except ReadError (Nat × ReadPlace) :=
  match place.rest with
  | a :: b :: c :: d :: _ =>
    let place := place.next.next.next.next
    match hexValue? a, hexValue? b, hexValue? c, hexValue? d with
    | some a, some b, some c, some d => .ok (((a * 16 + b) * 16 + c) * 16 + d, place)
    | _, _, _, _ => place.refuse .badEscape
  | _ => place.next.next.next.refuse .endInText

/-- Reads an escape by code point after its letter, with the second half of a pair. -/
def readCodePoint (place : ReadPlace) : Except ReadError (Char × ReadPlace) := do
  let (high, place) ← readHex place
  if 0xDC00 ≤ high ∧ high ≤ 0xDFFF then place.refuse .loneSurrogate
  else if high < 0xD800 ∨ 0xDBFF < high then return (Char.ofNat high, place)
  else
    match place.rest with
    | [] => place.refuse .endInText
    | '\\' :: _ =>
      let place := place.next
      match place.rest with
      | [] => place.refuse .endInText
      | 'u' :: _ =>
        let (low, place) ← readHex place.next
        if low < 0xDC00 ∨ 0xDFFF < low then place.refuse .loneSurrogate
        else return (Char.ofNat ((high - 0xD800) * 1024 + (low - 0xDC00) + 0x10000), place)
      | _ => place.next.refuse .endInSurrogate
    | _ => place.next.refuse .endInSurrogate

/-- Reads one escape after its backslash. -/
def readEscape (place : ReadPlace) : Except ReadError (Char × ReadPlace) :=
  match place.rest with
  | [] => place.refuse .endInText
  | 'u' :: _ => readCodePoint place.next
  | character :: rest =>
    let place := place.after character rest
    match character with
    | '"' => .ok ('"', place)
    | '\\' => .ok ('\\', place)
    | '/' => .ok ('/', place)
    | 'b' => .ok ('\x08', place)
    | 'f' => .ok ('\x0c', place)
    | 'n' => .ok ('\n', place)
    | 'r' => .ok ('\r', place)
    | 't' => .ok ('\t', place)
    | _ => place.refuse .badEscape

/-- Reads a text after its opening quote; `read` holds its characters so far, last first. -/
def readText : Nat → List Char → ReadPlace → Except ReadError (String × ReadPlace)
  | 0, _, place => place.refuse .endInText
  | fuel + 1, read, place =>
    match place.rest with
    | [] => place.refuse .endInText
    | character :: rest =>
      let after := place.after character rest
      if character = '"' then .ok (String.ofList read.reverse, after)
      else if character = '\\' then
        match readEscape after with
        | .ok (escaped, after) => readText fuel (escaped :: read) after
        | .error error => .error error
      else if character.toNat < 32 then after.refuse .controlCharacter
      else readText fuel (character :: read) after

/-! ### Brackets -/

/-- How deep brackets may nest. -/
def depthLimit : Nat := 127

/-- Whether one more item of a list comes next, and the place where it starts. -/
def readItemStart (first : Bool) (place : ReadPlace) : Except ReadError (Bool × ReadPlace) :=
  let place := place.skipBlanks
  match place.rest with
  | [] => place.refuseNext .endInList
  | ']' :: _ => .ok (false, place)
  | character :: _ =>
    if first then .ok (true, place)
    else if character = ',' then
      let place := place.next.skipBlanks
      match place.rest with
      | [] => place.refuseNext .endInValue
      | ']' :: _ => place.refuseNext .extraComma
      | _ => .ok (true, place)
    else place.refuseNext .noListSeparator

/-- Whether one more field of an object comes next, and the place where its name starts. -/
def readFieldStart (first : Bool) (place : ReadPlace) : Except ReadError (Bool × ReadPlace) :=
  let place := place.skipBlanks
  match place.rest with
  | [] => place.refuseNext .endInObject
  | '}' :: _ => .ok (false, place)
  | character :: _ =>
    if first then
      if character = '"' then .ok (true, place) else place.refuseNext .nameNoText
    else if character = ',' then
      let place := place.next.skipBlanks
      match place.rest with
      | [] => place.refuseNext .endInValue
      | '"' :: _ => .ok (true, place)
      | '}' :: _ => place.refuseNext .extraComma
      | _ => place.refuseNext .nameNoText
    else place.refuseNext .noObjectSeparator

/-- Reads the colon after a name. -/
def readColon (place : ReadPlace) : Except ReadError ReadPlace :=
  let place := place.skipBlanks
  match place.rest with
  | [] => place.refuseNext .endInObject
  | ':' :: _ => .ok place.next
  | _ => place.refuseNext .noColon

/-! ### Skipping -/

/-- Skips one escape after its backslash. The digits of a code point need not make a character. -/
def skipEscape (place : ReadPlace) : Except ReadError ReadPlace :=
  match place.rest with
  | 'u' :: _ => (readHex place.next).map (·.2)
  | _ => (readEscape place).map (·.2)

/-- Skips a text after its opening quote. -/
def skipText : Nat → ReadPlace → Except ReadError ReadPlace
  | 0, place => place.refuse .endInText
  | fuel + 1, place =>
    match place.rest with
    | [] => place.refuse .endInText
    | character :: rest =>
      let after := place.after character rest
      if character = '"' then .ok after
      else if character = '\\' then
        match skipEscape after with
        | .ok after => skipText fuel after
        | .error error => .error error
      else if character.toNat < 32 then after.refuse .controlCharacter
      else skipText fuel after

/-- Skips an exponent from its letter on. -/
def skipExponent (place : ReadPlace) : Except ReadError ReadPlace :=
  let place := place.next
  let place :=
    match place.rest with
    | '+' :: _ | '-' :: _ => place.next
    | _ => place
  match skipDigits place.rest 0 place with
  | (0, _) => place.refuseNext .badNumber
  | (_, place) => .ok place

/-- Skips an exponent if one comes next. -/
def skipOptionalExponent (place : ReadPlace) : Except ReadError ReadPlace :=
  match place.rest with
  | 'e' :: _ | 'E' :: _ => skipExponent place
  | _ => .ok place

/-- Skips a number after its sign, however great it is. -/
def skipNumber (place : ReadPlace) : Except ReadError ReadPlace :=
  match skipDigits place.rest 0 place with
  | (0, _) => place.refuseNext .badNumber
  | (count, after) =>
    if place.rest.head? = some '0' ∧ 1 < count then place.next.refuseNext .badNumber
    else
      match after.rest with
      | '.' :: _ =>
        match skipDigits after.next.rest 0 after.next with
        | (0, _) => after.next.refuseNext .badNumber
        | (_, place) => skipOptionalExponent place
      | _ => skipOptionalExponent after

mutual

/-- Skips one value. The brackets in it may nest to any depth. The number bounds the characters
that are left. -/
def skipValue : Nat → ReadPlace → Except ReadError ReadPlace
  | 0, place => place.refuseNext .endInValue
  | fuel + 1, place =>
    let place := place.skipBlanks
    match place.rest with
    | [] => place.refuseNext .endInValue
    | character :: _ =>
      match character with
      | 'n' => readWord "ull".toList place.next
      | 't' => readWord "rue".toList place.next
      | 'f' => readWord "alse".toList place.next
      | '-' => skipNumber place.next
      | '"' => skipText place.rest.length place.next
      | '[' => skipItems fuel true place.next
      | '{' => skipFields fuel true place.next
      | _ => if character.isDigit then skipNumber place else place.refuseNext .noValue

/-- Skips the items of a list up to its end. -/
def skipItems : Nat → Bool → ReadPlace → Except ReadError ReadPlace
  | 0, _, place => place.refuseNext .endInList
  | fuel + 1, first, place =>
    match readItemStart first place with
    | .error error => .error error
    | .ok (false, place) => .ok place.next
    | .ok (true, place) =>
      match skipValue fuel place with
      | .error error => .error error
      | .ok place => skipItems fuel false place

/-- Skips the fields of an object up to its end. -/
def skipFields : Nat → Bool → ReadPlace → Except ReadError ReadPlace
  | 0, _, place => place.refuseNext .endInObject
  | fuel + 1, first, place =>
    match readFieldStart first place with
    | .error error => .error error
    | .ok (false, place) => .ok place.next
    | .ok (true, place) =>
      match skipText place.rest.length place.next with
      | .error error => .error error
      | .ok place =>
        match readColon place with
        | .error error => .error error
        | .ok place =>
          match skipValue fuel place with
          | .error error => .error error
          | .ok place => skipFields fuel false place

end

/-! ### Values -/

/-- Which parts of a text are read: what a field of a part and an item of it are parts of. A
field that is no part is skipped. -/
structure Plan (Part : Type) where
  field : Part → String → Option Part
  item : Part → Nat → Part

/-- The plan to read all. -/
def Plan.whole : Plan Unit where
  field _ _ := some ()
  item _ _ := ()

section

variable {Part : Type} (plan : Plan Part)

mutual

/-- Reads one value, which is a part of the text, inside brackets that leave room for `depth`
more. The first number bounds the characters that are left. -/
def readValue : Nat → Nat → Part → ReadPlace → Except ReadError (Json × ReadPlace)
  | 0, _, _, place => place.refuseNext .endInValue
  | fuel + 1, depth, part, place =>
    let place := place.skipBlanks
    match place.rest with
    | [] => place.refuseNext .endInValue
    | character :: _ =>
      match character with
      | 'n' => (readWord "ull".toList place.next).map fun place => (Json.null, place)
      | 't' => (readWord "rue".toList place.next).map fun place => (Json.bool true, place)
      | 'f' => (readWord "alse".toList place.next).map fun place => (Json.bool false, place)
      | '-' => readNumber true place.next
      | '"' =>
        (readText place.rest.length [] place.next).map fun (content, place) =>
          (Json.text content, place)
      | '[' =>
        match depth with
        | 0 => place.refuseNext .tooDeep
        | depth + 1 =>
          (readItems fuel depth part true [] place.next).map fun (items, place) =>
            (Json.list items, place)
      | '{' =>
        match depth with
        | 0 => place.refuseNext .tooDeep
        | depth + 1 =>
          (readFields fuel depth part true [] place.next).map fun (fields, place) =>
            (Json.object fields, place)
      | _ =>
        if character.isDigit then readNumber false place else place.refuseNext .noValue

/-- Reads the items of a list up to its end; `read` holds those before, last first. -/
def readItems : Nat → Nat → Part → Bool → List Json → ReadPlace →
    Except ReadError (List Json × ReadPlace)
  | 0, _, _, _, _, place => place.refuseNext .endInList
  | fuel + 1, depth, part, first, read, place =>
    match readItemStart first place with
    | .error error => .error error
    | .ok (false, place) => .ok (read.reverse, place.next)
    | .ok (true, place) =>
      match readValue fuel depth (plan.item part read.length) place with
      | .error error => .error error
      | .ok (item, place) => readItems fuel depth part false (item :: read) place

/-- Reads the fields of an object up to its end; `read` holds those before, last first. -/
def readFields : Nat → Nat → Part → Bool → List (String × Json) → ReadPlace →
    Except ReadError (List (String × Json) × ReadPlace)
  | 0, _, _, _, _, place => place.refuseNext .endInObject
  | fuel + 1, depth, part, first, read, place =>
    match readFieldStart first place with
    | .error error => .error error
    | .ok (false, place) => .ok (read.reverse, place.next)
    | .ok (true, place) =>
      match readText place.rest.length [] place.next with
      | .error error => .error error
      | .ok (name, place) =>
        match readColon place with
        | .error error => .error error
        | .ok place =>
          match plan.field part name with
          | none =>
            match skipValue fuel place with
            | .error error => .error error
            | .ok place => readFields fuel depth part false read place
          | some inner =>
            match readValue fuel depth inner place with
            | .error error => .error error
            | .ok (value, place) =>
              readFields fuel depth part false ((name, value) :: read) place

end

end

/-- Refuses text after a value. -/
def readEnd (place : ReadPlace) : Except ReadError Unit :=
  let place := place.skipBlanks
  if place.rest.isEmpty then .ok () else place.refuseNext .extraText

/-- Reads the parts of a text that is one value, with room for `depth` brackets. Their fields stay
in the order they were written in, the repeated ones too. -/
def readParts {Part : Type} (plan : Plan Part) (part : Part) (depth : Nat) (text : String) :
    Except ReadError Json :=
  let place := ReadPlace.start text
  match readValue plan (2 * place.rest.length + 1) depth part place with
  | .error error => .error error
  | .ok (value, place) =>
    match readEnd place with
    | .error error => .error error
    | .ok () => .ok value

/-- Reads a text that is one value, with room for `depth` brackets. -/
def readWithin (depth : Nat) (text : String) : Except ReadError Json :=
  (readParts .whole () depth text).map sorted

/-- Reads a text that is one value. -/
def read (text : String) : Except ReadError Json :=
  readWithin depthLimit text

end Declarations.Json
