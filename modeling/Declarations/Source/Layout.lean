/-
This file turns the text of a source file into tokens. Inside brackets, and inside the holes
of string literals, line ends mean nothing. Outside them a line end closes the statement,
deeper indentation after a colon opens a block, and shallower indentation closes blocks; but
a comment on a line of its own that is indented as far as the block keeps the block open up
to that comment.
-/

import Declarations.Source.Token

namespace Declarations.Source

/-- A comment on a line of its own. -/
structure OwnLineComment where
  text : String
  indent : Nat
  line : Nat
  stop : Nat

/-- An open bracket with its line, or the hole in a string literal that is open. -/
structure Bracket where
  line : Nat
  hole : Option Hole

/-- The state of reading. `before`, `tokens`, `comments` and `brackets` have their last entry
first; `blocks` holds the indentation of the open blocks. `column` is the indentation so far
while only blanks and comments were read on the lines since the last token. -/
structure Scan where
  rest : List Char
  offset : Nat
  line : Nat
  column : Option Nat
  comments : List OwnLineComment
  before : List Filler
  tokens : List Token
  blocks : List Nat
  brackets : List Bracket
  opensBlock : Bool
  inStatement : Bool
  lastStop : Nat
  lastLine : Nat

namespace Scan

/-- The state in front of a text. -/
def start (text : List Char) : Scan where
  rest := text
  offset := 0
  line := 1
  column := some 0
  comments := []
  before := []
  tokens := []
  blocks := []
  brackets := []
  opensBlock := false
  inStatement := false
  lastStop := 0
  lastLine := 1

/-- The indentation of the innermost block. -/
def indent (scan : Scan) : Nat :=
  scan.blocks.headD 0

/-- Moves over the next `length` characters. -/
def skip (scan : Scan) (length : Nat) : Scan :=
  let passed := scan.rest.take length
  { scan with
    rest := scan.rest.drop length
    offset := scan.offset + passed.length
    line := scan.line + passed.count '\n' }

/-- Adds a token of no width where the last token or comment ended. -/
def mark (scan : Scan) (kind : TokenKind) : Scan :=
  let token : Token :=
    ⟨kind, "", scan.lastStop, scan.lastStop, scan.lastLine, scan.lastLine, scan.before.reverse⟩
  { scan with before := [], tokens := token :: scan.tokens }

/-- Puts a comment of its own line in front of the next token. -/
def takeComment (scan : Scan) (comment : OwnLineComment) : Scan :=
  { scan with
    before := .comment comment.text :: scan.before
    lastStop := comment.stop
    lastLine := comment.line }

/-- Closes blocks until the innermost is no deeper than the next statement, taking the
comments that are indented as far as the block they follow. -/
def closeBlocks (column : Nat) : Nat → List OwnLineComment → Scan → Scan
  | 0, _, scan => scan
  | fuel + 1, comments, scan =>
    let reaches := comments.head?.any fun comment => scan.indent ≤ comment.indent
    if column < scan.indent ∧ !reaches then
      closeBlocks column fuel comments ({ scan with blocks := scan.blocks.tail }.mark .outdent)
    else
      match comments with
      | comment :: others => closeBlocks column fuel others (scan.takeComment comment)
      | [] => scan

/-- Decides what the lines between two statements mean, given the indentation of the next. -/
def startLine (scan : Scan) (column : Nat) : Scan :=
  let comments := scan.comments.reverse
  let scan := { scan with column := none, comments := [] }
  let fuel := scan.blocks.length + comments.length + 1
  if scan.inStatement then
    let scan := { scan with inStatement := false }
    if scan.opensBlock ∧ scan.indent < column then
      let scan := { scan with opensBlock := false }.mark .indent
      closeBlocks column fuel comments { scan with blocks := column :: scan.blocks }
    else closeBlocks column fuel comments ({ scan with opensBlock := false }.mark .lineEnd)
  else closeBlocks column fuel comments scan

/-- The hole that is the innermost of what is open. -/
def hole? (scan : Scan) : Option Hole :=
  scan.brackets.head?.bind (·.hole)

/-- What is open when the innermost hole is changed. -/
def changeHole (scan : Scan) (change : Hole → Hole) : List Bracket :=
  scan.brackets.modifyHead fun bracket => { bracket with hole := bracket.hole.map change }

/-- What is open after an operator. A brace in a format opens a hole, and no bracket closes one but
a brace. -/
def bracketsAfterOperator (scan : Scan) (text : String) : List Bracket :=
  if ["(", "[", "\x7b"].contains text then
    ⟨scan.line, scan.hole?.bind fun hole =>
      if hole.inFormat then some ⟨none, false, 0⟩ else none⟩ :: scan.brackets
  else if text = "\x7d" ∨ ([")", "]"].contains text ∧ scan.hole?.isNone) then scan.brackets.tail
  else if text = ":" then
    scan.changeHole fun hole =>
      if hole.lambdas > 0 then { hole with lambdas := hole.lambdas - 1 }
      else { hole with inFormat := true }
  else scan.brackets

/-- What is open after a token. -/
def bracketsAfter (scan : Scan) (kind : TokenKind) (text : String) : List Bracket :=
  match kind with
  | .operator => scan.bracketsAfterOperator text
  | .textOpening =>
    ⟨scan.line, (styleAt? scan.rest).map fun (style, _) => ⟨some style, false, 0⟩⟩ :: scan.brackets
  | .textBetween => scan.changeHole fun hole => { hole with inFormat := false, lambdas := 0 }
  | .textClosing => scan.brackets.tail
  | .keyword =>
    if text = "lambda" then
      scan.changeHole fun hole => { hole with lambdas := hole.lambdas + 1 }
    else scan.brackets
  | _ => scan.brackets

/-- Adds a token of the next `length` characters. A string literal does not keep the line
continuations right in front of it. -/
def take (scan : Scan) (kind : TokenKind) (length : Nat) : Scan :=
  let text := String.ofList (scan.rest.take length)
  let before :=
    if kind = .text ∨ kind = .textOpening then scan.before.dropWhile (· = .continuation)
    else scan.before
  let after := scan.skip length
  let token : Token :=
    ⟨kind, text, scan.offset, after.offset, scan.line, after.line, before.reverse⟩
  let brackets := scan.bracketsAfter kind text
  { after with
    before := []
    tokens := token :: scan.tokens
    brackets := brackets
    opensBlock := kind = .operator ∧ text = ":" ∧ brackets.isEmpty
    inStatement := true
    lastStop := after.offset
    lastLine := after.line }

/-- The length of a line continuation at the start of a text. -/
def continuationLength? : List Char → Option Nat
  | '\\' :: '\n' :: _ => some 2
  | '\\' :: '\r' :: '\n' :: _ => some 3
  | ['\\'] => some 1
  | _ => none

/-- Reads on while only blanks and comments were read since the last statement. -/
def lineStep (scan : Scan) (column : Nat) : Scan :=
  match scan.rest with
  | [] => scan.startLine 0
  | character :: rest =>
    if character = '\n' ∨ character = '\r' ∨ character = '\x0c' then
      { scan.skip 1 with column := some 0 }
    else if character = ' ' then { scan.skip 1 with column := some (column + 1) }
    else if character = '\t' then { scan.skip 1 with column := some (column + 8) }
    else if character = '#' then
      let text := (character :: rest).takeWhile (· ≠ '\n')
      let after := scan.skip text.length
      let comment : OwnLineComment := ⟨String.ofList text, column, scan.line, after.offset⟩
      { after with comments := comment :: scan.comments, column := some 0 }
    else
      match continuationLength? scan.rest with
      | some length => { scan.skip length with column := some column }
      | none => scan.startLine column

/-- Whether the last token is a name and the one before it opened a hole. -/
def isFirstName (scan : Scan) : Bool :=
  match scan.tokens with
  | token :: earlier :: _ =>
    token.kind == .name && (earlier.kind == .textOpening || earlier.kind == .textBetween ||
      (earlier.kind == .operator && earlier.text == "\x7b"))
  | _ => false

/-- The kind and the length of the token that stands next, if it stands only in a hole. -/
def holeToken? (scan : Scan) : Option (TokenKind × Nat) :=
  scan.hole?.bind fun hole => hole.tokenAt? scan.isFirstName scan.rest

/-- Reads on inside a statement, at a character that starts no token of a hole. -/
def plainStep (scan : Scan) : Scan :=
  match scan.rest with
  | [] => scan
  | character :: rest =>
    if isSpace character then scan.skip 1
    else if character = '#' then
      let text := (character :: rest).takeWhile (· ≠ '\n')
      let after := scan.skip text.length
      { after with
        before := .comment (String.ofList text) :: scan.before
        lastStop := after.offset
        lastLine := after.line }
    else
      match continuationLength? scan.rest with
      | some length => { scan.skip length with before := .continuation :: scan.before }
      | none =>
        let (kind, length) := tokenAt scan.rest
        scan.take kind length

/-- Reads on inside a statement. -/
def statementStep (scan : Scan) : Scan :=
  if scan.rest.head? = some '\n' then
    if scan.brackets.isEmpty then { scan with column := some 0 } else scan.skip 1
  else
    match scan.holeToken? with
    | some (kind, length) => scan.take kind length
    | none => scan.plainStep

/-- Whether the last token is one that cannot be read. -/
def isStuck (scan : Scan) : Bool :=
  scan.tokens.head?.any fun token => token.kind == .unreadable

/-- Ends the file: the last statement and all blocks are closed. A bracket that is still open
after a file that can be read is where the file is wrong. -/
def finish (scan : Scan) : List Token :=
  let scan := if scan.brackets.isEmpty then scan.startLine 0 else scan
  let line :=
    if scan.isStuck then scan.lastLine else (scan.brackets.head?.map (·.line)).getD scan.lastLine
  let token : Token :=
    ⟨.fileEnd, "", scan.lastStop, scan.lastStop, line, line, scan.before.reverse⟩
  (token :: scan.tokens).reverse

/-- Reads to the end of the file. -/
def run : Nat → Scan → List Token
  | 0, scan => scan.finish
  | fuel + 1, scan =>
    if scan.rest.isEmpty then scan.finish
    else
      match scan.column with
      | some column => run fuel (scan.lineStep column)
      | none => run fuel scan.statementStep

end Scan

/-- The tokens of a source file, the last one marking its end. -/
def tokens (text : List Char) : List Token :=
  Scan.run (4 * text.length + 4) (Scan.start text)

end Declarations.Source
