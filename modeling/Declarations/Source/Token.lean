/-
This file holds the tokens of a source file and the reading of one token. A token knows
its text and where it stands, and it carries the comments and line continuations in
front of it, because among the items of a bracket those are items too. A string literal in
which expressions stand is read piece by piece, with their tokens between the pieces.
-/

import Declarations.Characters.Names
import Declarations.Text.Blank

namespace Declarations.Source

/-- What may stand between two tokens besides blanks. -/
inductive Filler where
  | comment (text : String)
  | continuation
deriving DecidableEq, Repr

/-- The kinds of tokens. A line end closes a statement; an indent and an outdent open and
close a block. A string literal is one token, unless expressions stand in it: then one token
opens it up to the first of them, one closes it behind the last, and one stands between each
two. -/
inductive TokenKind where
  | name
  | keyword
  | number
  | text
  | textOpening
  | textBetween
  | textClosing
  /-- What asks for a way to show the expression in front of it. -/
  | conversion
  /-- A piece of a format behind an expression. -/
  | formatText
  | operator
  | lineEnd
  | indent
  | outdent
  | fileEnd
  | unreadable
deriving DecidableEq, Repr

/-- A token with its place: offsets count characters, lines count from one. -/
structure Token where
  kind : TokenKind
  text : String
  start : Nat
  stop : Nat
  line : Nat
  endLine : Nat
  before : List Filler
deriving Repr

/-- The words that no name may be. -/
def keywords : List String :=
  ["False", "None", "True", "and", "as", "assert", "async", "await", "break", "class",
    "continue", "def", "del", "elif", "else", "except", "finally", "for", "from", "global",
    "if", "import", "in", "is", "lambda", "nonlocal", "not", "or", "pass", "raise", "return",
    "try", "while", "with", "yield"]

/-- The operators and brackets, longer ones before the shorter ones they start with. -/
def operators : List String :=
  ["**=", "//=", ">>=", "<<=", "...", "**", "//", "<<", ">>", "<=", ">=", "==", "!=", "<>",
    "->", ":=", "+=", "-=", "*=", "/=", "%=", "@=", "&=", "|=", "^=", "+", "-", "*", "/", "%",
    "@", "&", "|", "^", "~", "<", ">", "=", "(", ")", "[", "]", "\x7b", "\x7d", ",", ":", ".",
    ";"]

/-- Whether a character may start a name. -/
def startsName (character : Char) : Bool :=
  character == '_' || CharacterSet.nameStart.contains character

/-- Whether a character may go on in a name. -/
def continuesName (character : Char) : Bool :=
  CharacterSet.namePart.contains character

/-- Whether a character separates tokens without ending a line. -/
def isSpace (character : Char) : Bool :=
  character == ' ' || character == '\t' || character == '\r' || character == '\x0b' ||
    character == '\x0c' || character == '\uFEFF' || character == '\u2060' || character == '\u200B'

/-! ### Numbers -/

/-- How many characters at the start are digits of a kind, where one underscore may follow each
digit. -/
def digitRun (isDigit : Char → Bool) : List Char → Nat
  | digit :: '_' :: rest => if isDigit digit then digitRun isDigit rest + 2 else 0
  | digit :: rest => if isDigit digit then digitRun isDigit rest + 1 else 0
  | [] => 0

/-- How many characters at the start are digits of a kind, where one underscore may precede each
digit. -/
def underscoredRun (isDigit : Char → Bool) : List Char → Nat
  | '_' :: digit :: rest => if isDigit digit then underscoredRun isDigit rest + 2 else 0
  | digit :: rest => if isDigit digit then underscoredRun isDigit rest + 1 else 0
  | [] => 0

/-- Whether a character is a hexadecimal digit. -/
def isHexDigit (character : Char) : Bool :=
  character.isDigit || ('a' ≤ character && character ≤ 'f') ||
    ('A' ≤ character && character ≤ 'F')

/-- The length of an exponent at the start of a text. -/
def exponentLength : List Char → Nat
  | letter :: rest =>
    if letter == 'e' || letter == 'E' then
      match rest with
      | sign :: digits =>
        if sign == '+' || sign == '-' then
          let count := digitRun Char.isDigit digits
          if count = 0 then 0 else count + 2
        else
          let count := digitRun Char.isDigit rest
          if count = 0 then 0 else count + 1
      | [] => 0
    else 0
  | [] => 0

/-- Whether a letter marks a long integer of version 2. -/
def marksLong (letter : Char) : Bool :=
  letter == 'l' || letter == 'L'

/-- The length of a decimal number at the start of a text, its exponent and unit included. -/
def decimalLength (text : List Char) : Nat :=
  let whole := digitRun Char.isDigit text
  let fraction :=
    match text.drop whole with
    | '.' :: rest => 1 + digitRun Char.isDigit rest
    | _ => 0
  let upToExponent := whole + fraction
  let upToUnit := upToExponent + exponentLength (text.drop upToExponent)
  match text.drop upToUnit with
  | unit :: _ =>
    if unit == 'j' || unit == 'J' || (marksLong unit && upToUnit == whole) then upToUnit + 1
    else upToUnit
  | [] => upToUnit

/-- The length of a number at the start of a text that starts with a digit, or with a point
and a digit. -/
def numberLength (text : List Char) : Nat :=
  let based (isDigit : Char → Bool) : Nat :=
    let digits := underscoredRun isDigit (text.drop 2)
    if digits = 0 then decimalLength text
    else if (text.drop (digits + 2)).head?.any marksLong then digits + 3
    else digits + 2
  match text with
  | '0' :: letter :: _ =>
    if letter == 'x' || letter == 'X' then based isHexDigit
    else if letter == 'o' || letter == 'O' then based fun digit => '0' ≤ digit && digit ≤ '7'
    else if letter == 'b' || letter == 'B' then based fun digit => digit == '0' || digit == '1'
    else decimalLength text
  | _ => decimalLength text

/-! ### String literals -/

/-- Whether a letter may stand in front of a string literal. -/
def isLiteralLetter (character : Char) : Bool :=
  "fFrRbBuU".toList.contains character

/-- How a string literal is written. -/
structure LiteralStyle where
  quote : Char
  isTriple : Bool
  /-- Whether expressions may stand in it, in braces. -/
  isFormat : Bool
  isRaw : Bool
deriving DecidableEq, Repr

/-- Where a piece of a string literal ends: at the closing quotes, or at a brace that opens an
expression. -/
inductive PieceEnd where
  | quotes
  | brace
deriving DecidableEq, Repr

/-- How many characters behind a backslash go with it. Where expressions may stand, a brace does
not, and a character may be given by its name in braces. -/
def LiteralStyle.escapeLength (style : LiteralStyle) : List Char → Nat
  | [] => 0
  | '\r' :: '\n' :: _ => 2
  | 'N' :: '\x7b' :: name =>
    if !style.isFormat ∨ style.isRaw ∨ name.head? = some '\x7d' then 1
    else (name.takeWhile (· ≠ '\x7d')).length + 3
  | next :: _ => if style.isFormat ∧ (next = '\x7b' ∨ next = '\x7d') then 0 else 1

/-- Where a piece of a string literal ends and how long it is with that end, after so many
characters that are passed over; none when there is no end. Only triple quotes span lines, and
where expressions may stand, a brace that opens none is written twice. -/
def LiteralStyle.piece? (style : LiteralStyle) : Nat → List Char → Option (PieceEnd × Nat)
  | _, [] => none
  | passed, character :: rest =>
    let goesOn (passed : Nat) : Option (PieceEnd × Nat) :=
      (style.piece? passed rest).map fun (ends, length) => (ends, length + 1)
    let isTwice := rest.head? = some character
    if 0 < passed then goesOn (passed - 1)
    else if character = '\\' then goesOn (style.escapeLength rest)
    else if character = style.quote then
      if !style.isTriple then some (.quotes, 1)
      else if isTwice ∧ rest[1]? = some character then some (.quotes, 3)
      else goesOn 0
    else if character = '\n' ∧ !style.isTriple then none
    else if style.isFormat ∧ (character = '\x7b' ∨ character = '\x7d') then
      if isTwice then goesOn 1
      else if character = '\x7b' then some (.brace, 1)
      else none
    else goesOn 0

/-- How the string literal at the start of a text is written, and how long its letters and opening
quotes are; none when no literal starts there. -/
def styleAt? (text : List Char) : Option (LiteralStyle × Nat) :=
  let letters := text.takeWhile isLiteralLetter
  match text.drop letters.length with
  | quote :: rest =>
    if quote = '"' ∨ quote = '\'' ∨ quote = '\x60' then
      let isTriple := quote ≠ '\x60' ∧ [quote, quote].isPrefixOf rest
      let isFormat := letters.contains 'f' || letters.contains 'F'
      let isRaw := letters.contains 'r' || letters.contains 'R'
      some (⟨quote, isTriple, isFormat, isRaw⟩, letters.length + if isTriple then 3 else 1)
    else none
  | [] => none

/-- The kind and the length of the token at the start of a text that starts with a string
literal: all of it, or what is in front of the first expression in it. -/
def literalAt? (text : List Char) : Option (TokenKind × Nat) :=
  (styleAt? text).map fun (style, opening) =>
    match style.piece? 0 (text.drop opening) with
    | some (.quotes, length) => (.text, opening + length)
    | some (.brace, length) => (.textOpening, opening + length)
    | none => (.unreadable, text.length)

/-- An expression that is open in a string literal, or in the format behind such an expression,
where it has no literal of its own. -/
structure Hole where
  literal : Option LiteralStyle
  inFormat : Bool
  /-- How many lambdas are open that have no colon yet. -/
  lambdas : Nat
deriving DecidableEq, Repr

/-- The kind and the length of the token at the start of a text inside a hole, where it is one that
stands nowhere else. A colon right behind the first name may start an assignment there. -/
def Hole.tokenAt? (hole : Hole) (isFirstName : Bool) : List Char → Option (TokenKind × Nat)
  | [] => none
  | character :: rest =>
    if character = '\x7d' then
      hole.literal.map fun style =>
        match style.piece? 0 rest with
        | some (.quotes, length) => (.textClosing, length + 1)
        | some (.brace, length) => (.textBetween, length + 1)
        | none => (.unreadable, rest.length + 1)
    else if hole.inFormat then
      if character = '\x7b' then none
      else
        let piece := rest.takeWhile fun other => !"\x7b\x7d\n".toList.contains other
        some (.formatText, piece.length + 1)
    else if character = ':' then
      if hole.lambdas > 0 ∨ (isFirstName ∧ rest.head? = some '=') then none else some (.operator, 1)
    else if character = '!' then
      match rest with
      | letter :: _ => if 'a' ≤ letter ∧ letter ≤ 'z' then some (.conversion, 2) else none
      | [] => none
    else none

/-! ### One token -/

/-- The operator at the start of a text. -/
def operatorAt? (text : List Char) : Option String :=
  operators.find? fun operator => operator.toList.isPrefixOf text

/-- The kind and the length of the token at the start of a text that starts with neither a
blank nor a comment. -/
def tokenAt (text : List Char) : TokenKind × Nat :=
  match text with
  | [] => (.fileEnd, 0)
  | first :: rest =>
    match literalAt? text with
    | some token => token
    | none =>
      if startsName first then
        let length := 1 + (rest.takeWhile continuesName).length
        let isKeyword := keywords.contains (String.ofList (text.take length))
        (if isKeyword then .keyword else .name, length)
      else if first.isDigit || (first == '.' && rest.head?.any Char.isDigit) then
        (.number, numberLength text)
      else
        match operatorAt? text with
        | some operator => (.operator, operator.length)
        | none => (.unreadable, text.length)

end Declarations.Source
