/-
This file reads TOML documents as JSON objects. A date becomes an object with a single
field, since no option is one.
-/

import Declarations.Json.Reader
import Declarations.Toml.Table

namespace Declarations.Toml

/-- Reads something from the front of a text, or refuses. -/
abbrev Reader (α : Type) : Type :=
  StateT (List Char) Option α

namespace Reader

/-- The next character, if there is one, which stays. -/
def peek : Reader (Option Char) :=
  return (← get).head?

/-- Takes the next character. -/
def next : Reader Char := do
  match ← get with
  | [] => failure
  | character :: rest => set rest; return character

/-- Takes the characters that pass a test. -/
def takeWhile (test : Char → Bool) : Reader (List Char) :=
  modifyGet fun rest => (rest.takeWhile test, rest.dropWhile test)

/-- Takes a text, or refuses. -/
def expect (text : String) : Reader Unit := do
  match text.toList.isPrefixOf? (← get) with
  | some rest => set rest
  | none => failure

/-- Takes a text where it comes next, and says whether it did. -/
def accept (text : String) : Reader Bool := do
  match text.toList.isPrefixOf? (← get) with
  | some rest => set rest; return true
  | none => return false

/-- How many characters are left. -/
def remaining : Reader Nat :=
  return (← get).length

end Reader

open Reader

/-! ### Blanks -/

/-- Whether a character may stand in a comment or in a text. -/
def isPlain (character : Char) : Bool :=
  character == '\t' || (character.toNat ≥ 0x20 && character.toNat != 0x7f)

/-- Skips blanks inside a line. -/
def skipBlanks : Reader Unit := do
  let _ ← takeWhile fun character => character == ' ' || character == '\t'

/-- Skips a comment, if one comes next. -/
def skipComment : Reader Unit := do
  if ← accept "#" then
    let _ ← takeWhile isPlain

/-- Takes the end of a line, and says whether there was one. -/
def acceptLineEnd : Reader Bool := do
  if ← accept "\n" then return true
  accept "\r\n"

/-- Skips blanks, comments and line ends, at most so many lines. -/
def skipLines : Nat → Reader Unit
  | 0 => return
  | count + 1 => do
    skipBlanks
    skipComment
    if ← acceptLineEnd then skipLines count

/-- Skips blanks, comments and line ends. -/
def skipSpace : Reader Unit := do
  skipLines ((← remaining) + 1)

/-! ### Texts -/

/-- The value of a digit to the base sixteen. -/
def digitValue? (character : Char) : Option Nat :=
  let code := character.toLower.toNat
  if character.isDigit then some (code - 48)
  else if 97 ≤ code ∧ code ≤ 102 then some (code - 87)
  else none

/-- Reads the code point of an escape that has so many digits. -/
def codePoint : Nat → Nat → Reader Char
  | 0, value => if value.isValidChar then return Char.ofNat value else failure
  | count + 1, value => do
    match digitValue? (← next) with
    | some digit => codePoint count (16 * value + digit)
    | none => failure

/-- Reads what follows a backslash. -/
def escaped : Reader Char := do
  match ← next with
  | 'b' => return '\x08'
  | 't' => return '\t'
  | 'n' => return '\n'
  | 'f' => return '\x0c'
  | 'r' => return '\r'
  | '"' => return '"'
  | '\\' => return '\\'
  | 'u' => codePoint 4 0
  | 'U' => codePoint 8 0
  | _ => failure

/-- Reads a text on one line up to its quote. The number bounds the characters. -/
def lineText (quote : Char) : Nat → List Char → Reader String
  | 0, _ => failure
  | count + 1, read => do
    let character ← next
    if character = quote then return String.ofList read.reverse
    else if character = '\\' ∧ quote = '"' then lineText quote count ((← escaped) :: read)
    else if isPlain character then lineText quote count (character :: read)
    else failure

/-- Skips blanks and line ends after a backslash that ends a line. -/
def skipFold : Reader Unit := do
  skipBlanks
  if ← acceptLineEnd then
    let _ ← takeWhile fun character =>
      character == ' ' || character == '\t' || character == '\n' || character == '\r'
  else failure

/-- Reads a text on several lines up to its three quotes; up to two more may stand before
them. -/
def linesText (quote : Char) : Nat → List Char → Reader String
  | 0, _ => failure
  | count + 1, read => do
    if ← acceptLineEnd then linesText quote count ('\n' :: read)
    else
      match ← peek with
      | none => failure
      | some character =>
        if character = quote then
          let quotes := (← get).takeWhile (· == quote)
          if quotes.length < 3 then
            modify (·.drop quotes.length)
            linesText quote count (quotes ++ read)
          else
            let extra := min (quotes.length - 3) 2
            modify (·.drop (3 + extra))
            return String.ofList (List.replicate extra quote ++ read).reverse
        else
          let _ ← next
          if character = '\\' ∧ quote = '"' then
            match ← peek with
            | some ' ' | some '\t' | some '\n' | some '\r' =>
              skipFold
              linesText quote count read
            | _ => linesText quote count ((← escaped) :: read)
          else if isPlain character then linesText quote count (character :: read)
          else failure

/-- Reads a text on one line, of which the quote was seen. -/
def quotedLine (quote : Char) : Reader String := do
  let _ ← next
  lineText quote ((← remaining) + 1) []

/-- Reads a text, of which the quote was seen. -/
def quoted (quote : Char) : Reader String := do
  if ← accept (String.ofList [quote, quote, quote]) then
    let _ ← acceptLineEnd
    linesText quote ((← remaining) + 1) []
  else quotedLine quote

/-! ### Names -/

/-- Whether a character may stand in a name without quotes. -/
def isBare (character : Char) : Bool :=
  character.isAlphanum || character == '_' || character == '-'

/-- Reads one part of a name. -/
def namePart : Reader String := do
  match ← peek with
  | some '"' => quotedLine '"'
  | some '\'' => quotedLine '\''
  | _ =>
    match ← takeWhile isBare with
    | [] => failure
    | part => return String.ofList part

/-- Reads a name with blanks around it: the parts before the last dot, and the last part. -/
def dottedName : Nat → Reader (List String × String)
  | 0 => failure
  | count + 1 => do
    skipBlanks
    let part ← namePart
    skipBlanks
    if ← accept "." then
      let (path, name) ← dottedName count
      return (part :: path, name)
    else return ([], part)

/-- Reads a name. -/
def name : Reader (List String × String) := do
  dottedName ((← remaining) + 1)

/-! ### Numbers and dates -/

/-- The digits of a number in which single underscores may stand between digits. -/
def digits (isDigit : Char → Bool) : List Char → Option (List Char)
  | [] => none
  | [digit] => if isDigit digit then some [digit] else none
  | digit :: '_' :: rest => if isDigit digit then (digits isDigit rest).map (digit :: ·) else none
  | digit :: rest => if isDigit digit then (digits isDigit rest).map (digit :: ·) else none

/-- The value of digits to a base. -/
def valueOf (base : Nat) (digits : List Char) : Nat :=
  digits.foldl (fun value digit => base * value + (digitValue? digit).getD 0) 0

/-- The least size that only a negative whole number can have. -/
def integerLimit : Nat := Nat.pow 2 63

/-- A whole number that fits into 64 bits with a sign. -/
def wholeNumber (negative : Bool) (value : Nat) : Option Json :=
  if value < integerLimit ∨ (negative ∧ value = integerLimit) then
    some (.integer (if negative then -value else value))
  else none

/-- The sign of a number, and what follows it. -/
def splitSign : List Char → Bool × List Char
  | '-' :: rest => (true, rest)
  | '+' :: rest => (false, rest)
  | rest => (false, rest)

/-- The digits before a point or an exponent: those of a number that does not start with a zero
unless it is zero. -/
def leading (text : List Char) : Option (List Char) := do
  let found ← digits Char.isDigit text
  if found.head? = some '0' ∧ found.length > 1 then none else some found

/-- A whole number. -/
def integer? (text : List Char) : Option Json :=
  match text with
  | '0' :: 'x' :: rest => do
    wholeNumber false (valueOf 16 (← digits (fun digit => (digitValue? digit).isSome) rest))
  | '0' :: 'o' :: rest => do
    wholeNumber false (valueOf 8 (← digits (fun digit => '0' ≤ digit && digit ≤ '7') rest))
  | '0' :: 'b' :: rest => do
    wholeNumber false (valueOf 2 (← digits (fun digit => digit == '0' || digit == '1') rest))
  | _ => do
    let (negative, rest) := splitSign text
    wholeNumber negative (valueOf 10 (← leading rest))

/-- The exponent of a number, rewritten without underscores. -/
def exponent? : List Char → Option (List Char)
  | [] => some []
  | mark :: rest =>
    if mark = 'e' ∨ mark = 'E' then do
      let (negative, rest) := splitSign rest
      let found ← digits Char.isDigit rest
      return 'e' :: (if negative then ['-'] else []) ++ found
    else none

/-- A number with a point or an exponent. -/
def decimal? (text : List Char) : Option Json :=
  let (negative, rest) := splitSign text
  if rest = "inf".toList ∨ rest = "nan".toList then some (.decimal ⟨negative, 0, 0⟩)
  else do
    let whole ← leading (rest.takeWhile fun c => c.isDigit || c == '_')
    let written ←
      match rest.dropWhile fun c => c.isDigit || c == '_' with
      | '.' :: rest => do
        let places ← digits Char.isDigit (rest.takeWhile fun c => c.isDigit || c == '_')
        let power ← exponent? (rest.dropWhile fun c => c.isDigit || c == '_')
        some (whole ++ '.' :: places ++ power)
      | [] => none
      | rest => do some (whole ++ (← exponent? rest))
    match Json.read (String.ofList ((if negative then ['-'] else []) ++ written)) with
    | .ok value => some value
    | .error _ => none

/-- A number of exactly so many digits in front of a text. -/
def fixedDigits (count : Nat) (text : List Char) : Option (Nat × List Char) :=
  let front := text.take count
  if front.length = count ∧ front.all Char.isDigit then
    some (valueOf 10 front, text.drop count)
  else none

/-- How many days a month has. -/
def daysIn (year month : Nat) : Nat :=
  if month = 2 then
    if year % 400 = 0 ∨ (year % 4 = 0 ∧ year % 100 ≠ 0) then 29 else 28
  else if month = 4 ∨ month = 6 ∨ month = 9 ∨ month = 11 then 30
  else 31

/-- What follows the time of a day in front of a text. -/
def afterTime? (text : List Char) : Option (List Char) := do
  let (hour, rest) ← fixedDigits 2 text
  let rest ← [':'].isPrefixOf? rest
  let (minute, rest) ← fixedDigits 2 rest
  let rest ← [':'].isPrefixOf? rest
  let (second, rest) ← fixedDigits 2 rest
  if hour > 23 ∨ minute > 59 ∨ second > 60 then none
  else
    match rest with
    | '.' :: rest =>
      if (rest.takeWhile Char.isDigit).isEmpty then none else some (rest.dropWhile Char.isDigit)
    | rest => some rest

/-- What follows a date in front of a text. -/
def afterDate? (text : List Char) : Option (List Char) := do
  let (year, rest) ← fixedDigits 4 text
  let rest ← ['-'].isPrefixOf? rest
  let (month, rest) ← fixedDigits 2 rest
  let rest ← ['-'].isPrefixOf? rest
  let (day, rest) ← fixedDigits 2 rest
  if month < 1 ∨ month > 12 ∨ day < 1 ∨ day > daysIn year month then none else some rest

/-- Whether a text is the distance to the time at the zero meridian, or nothing. -/
def isOffset : List Char → Bool
  | [] | ['Z'] | ['z'] => true
  | sign :: rest =>
    (sign == '+' || sign == '-') &&
      match fixedDigits 2 rest with
      | some (hour, ':' :: rest) =>
        match fixedDigits 2 rest with
        | some (minute, []) => hour ≤ 23 && minute ≤ 59
        | _ => false
      | _ => false

/-- Whether a text is a date, a time of a day, or both. -/
def isMoment (text : List Char) : Bool :=
  match afterTime? text, afterDate? text with
  | some rest, _ => rest.isEmpty
  | _, some [] => true
  | _, some (separator :: rest) =>
    (separator == 'T' || separator == 't' || separator == ' ') &&
      match afterTime? rest with
      | some rest => isOffset rest
      | none => false
  | _, none => false

/-- A date or a time as an object. -/
def momentJson (text : List Char) : Json :=
  .object [("moment", .text (String.ofList text))]

/-- Reads a word, a number, a date or a time. -/
def plainValue : Reader Json := do
  let inWord (character : Char) : Bool :=
    character.isAlphanum || "+-_.:".toList.contains character
  let word ← takeWhile inWord
  let time :=
    match ← get with
    | ' ' :: rest => if (afterTime? rest).isSome then ' ' :: rest.takeWhile inWord else []
    | _ => []
  if (afterDate? word) = some [] ∧ !time.isEmpty then
    modify (·.drop time.length)
    if isMoment (word ++ time) then return momentJson (word ++ time) else failure
  else if word = "true".toList then return .bool true
  else if word = "false".toList then return .bool false
  else if isMoment word then return momentJson word
  else
    match integer? word with
    | some value => return value
    | none =>
      match decimal? word with
      | some value => return value
      | none => failure

/-! ### Values and documents -/

/-- How deep brackets may nest. -/
def depthLimit : Nat := 79

/-- Reads the items of a list after its bracket; `value` reads one. -/
def listItems (value : Reader Json) : Nat → List Json → Reader (List Json)
  | 0, _ => failure
  | count + 1, read => do
    skipSpace
    if ← accept "]" then return read.reverse
    let item ← value
    skipSpace
    if ← accept "," then listItems value count (item :: read)
    else
      expect "]"
      return (item :: read).reverse

/-- Reads a name with its value. -/
def entry (value : Reader Json) : Reader (List String × String × Json) := do
  let (path, name) ← name
  expect "="
  skipBlanks
  return (path, name, ← value)

/-- Reads the entries of a table on one line after its brace. -/
def tableEntries (value : Reader Json) :
    Nat → List (List String × String × Json) → Reader (List (List String × String × Json))
  | 0, _ => failure
  | count + 1, read => do
    let read := (← entry value) :: read
    skipBlanks
    if ← accept "," then tableEntries value count read
    else
      expect "\x7d"
      return read.reverse

/-- Reads a value with room for so many brackets. -/
def value : Nat → Reader Json
  | 0 => do
    match ← peek with
    | some '[' | some '{' => failure
    | some '"' => return .text (← quoted '"')
    | some '\'' => return .text (← quoted '\'')
    | _ => plainValue
  | depth + 1 => do
    match ← peek with
    | some '[' =>
      let _ ← next
      return .list (← listItems (value depth) ((← remaining) + 1) [])
    | some '{' =>
      let _ ← next
      skipBlanks
      if ← accept "\x7d" then return .object []
      let entries ← tableEntries (value depth) ((← remaining) + 1) []
      match Fields.insertAll [] entries with
      | some fields => return .object (fieldsToJson fields)
      | none => failure
    | some '"' => return .text (← quoted '"')
    | some '\'' => return .text (← quoted '\'')
    | _ => plainValue

/-- What a line of a document says. -/
inductive Line where
  | blank
  | entry (path : List String) (name : String) (value : Json)
  | table (path : List String) (name : String)
  | element (path : List String) (name : String)

/-- Reads a line without its end. -/
def lineContent : Reader Line := do
  skipBlanks
  match ← peek with
  | none | some '#' | some '\n' | some '\r' => return .blank
  | some '[' =>
    if ← accept "[[" then
      let (path, name) ← name
      expect "]]"
      return .element path name
    else
      let _ ← next
      let (path, name) ← name
      expect "]"
      return .table path name
  | _ =>
    let (path, name, value) ← entry (value depthLimit)
    return .entry path name value

/-- Reads the lines of a document. -/
def readLines : Nat → List Line → Reader (List Line)
  | 0, _ => failure
  | count + 1, read => do
    let line ← lineContent
    skipBlanks
    skipComment
    if ← acceptLineEnd then readLines count (line :: read)
    else if (← remaining) = 0 then return (line :: read).reverse
    else failure

/-- A heading with the entries below it. -/
structure Section where
  heading : Line
  entries : List (List String × String × Json)

/-- The lines of a document by their headings; the first section has none. -/
def sections : List Line → List Section
  | [] => [⟨.blank, []⟩]
  | line :: rest =>
    match line, sections rest with
    | .blank, below => below
    | .entry path name value, first :: below =>
      { first with entries := (path, name, value) :: first.entries } :: below
    | heading, first :: below => ⟨.blank, []⟩ :: { first with heading := heading } :: below
    | _, [] => []

/-- Adds a section to a document. -/
def addSection (fields : Fields) (added : Section) : Option Fields :=
  match added.heading with
  | .table path name => fields.insertTable path name added.entries
  | .element path name => fields.insertElement path name added.entries
  | _ => fields.insertAll added.entries

/-- The fields of a document. -/
def read? (text : String) : Option (List (String × Json)) := do
  let characters := text.toList
  let characters := if characters.head? = some '\ufeff' then characters.tail else characters
  let (lines, _) ← (readLines (characters.length + 1) []).run characters
  let fields ← (sections lines).foldlM addSection []
  return fieldsToJson fields

end Declarations.Toml
