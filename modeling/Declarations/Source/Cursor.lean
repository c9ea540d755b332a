/-
This file holds the reading of tokens one after another. A reader takes tokens from the
front or refuses the next one; of two alternatives that both refuse, the refusal further
on is the one reported.
-/

import Declarations.Source.Places
import Declarations.Source.Tree

namespace Declarations.Source

/-- The token where reading stopped. -/
structure Refusal where
  offset : Nat
  line : Nat
deriving DecidableEq, Repr

/-- The tokens of a text that are left, and the end of the last one taken. -/
structure Cursor (text : Array Char) where
  rest : List Token
  stop : Nat
  endLine : Nat
  placed : Placed text.toList rest

/-- A reader of tokens over the text of a file. -/
abbrev Reader (α : Type) : Type :=
  (text : Array Char) → Cursor text → Except Refusal (α × Cursor text)

namespace Reader

instance : Monad Reader where
  pure value := fun _ cursor => .ok (value, cursor)
  bind first second := fun text cursor =>
    match first text cursor with
    | .ok (value, cursor) => second value text cursor
    | .error refusal => .error refusal

/-- The token that stands for the end of the file when no token is left. -/
def fileEnd {text : Array Char} (cursor : Cursor text) : Token :=
  ⟨.fileEnd, "", cursor.stop, cursor.stop, cursor.endLine, cursor.endLine, []⟩

/-- The next token, which stays. -/
def peek : Reader Token :=
  fun _ cursor => .ok (cursor.rest.headD (fileEnd cursor), cursor)

/-- The token after the next one. -/
def peekSecond : Reader Token :=
  fun _ cursor => .ok (cursor.rest.tail.headD (fileEnd cursor), cursor)

/-- Takes the next token. -/
def next : Reader Token :=
  fun _ cursor =>
    match cursor with
    | ⟨[], _, _, _⟩ => .ok (fileEnd cursor, cursor)
    | ⟨token :: rest, _, _, placed⟩ =>
      .ok (token, ⟨rest, token.stop, token.endLine, placed.tail⟩)

/-- Refuses the next token. -/
def refuse {α : Type} : Reader α :=
  fun _ cursor =>
    let token := cursor.rest.headD (fileEnd cursor)
    .error ⟨token.start, token.line⟩

/-- Reads as `first`, or as `second` where `first` refuses. -/
def orElse {α : Type} (first second : Reader α) : Reader α :=
  fun text cursor =>
    match first text cursor with
    | .ok result => .ok result
    | .error early =>
      match second text cursor with
      | .ok result => .ok result
      | .error late => .error (if late.offset < early.offset then early else late)

/-- How many characters follow the last token taken. No more tokens than that have any text. -/
def remaining : Reader Nat :=
  fun text cursor => .ok (text.size - cursor.stop, cursor)

/-- The text from an offset to the end of the last token. -/
def textFrom (start : Nat) : Reader String :=
  fun text cursor => .ok (String.ofList (text.extract start cursor.stop).toList, cursor)

/-- The line where the last token ended. -/
def endLine : Reader Nat :=
  fun _ cursor => .ok (cursor.endLine, cursor)

/-- Whether a token is a word or sign that is spelled so. -/
def isSpelled (token : Token) (spelling : String) : Bool :=
  (token.kind == .operator || token.kind == .keyword) && token.text == spelling

/-- Whether the next token is spelled so. -/
def isNext (spelling : String) : Reader Bool := do
  return isSpelled (← peek) spelling

/-- Takes the next token if it is spelled so. -/
def accept (spelling : String) : Reader Bool := do
  if ← isNext spelling then
    let _ ← next
    return true
  else return false

/-- Takes the next token if it is spelled in one of some ways. -/
def acceptAny (spellings : List String) : Reader Bool := do
  if spellings.any (isSpelled (← peek)) then
    let _ ← next
    return true
  else return false

/-- Takes the next token, which must be spelled so. -/
def expect (spelling : String) : Reader Unit := do
  if ← accept spelling then return () else refuse

/-- Takes the next token, which must be of a kind. -/
def expectKind (kind : TokenKind) : Reader Token := do
  if (← peek).kind == kind then next else refuse

/-- Reads one thing after another until there is none, at most `limit` of them. -/
def collect {α : Type} (limit : Nat) (one : Reader (Option α)) : Reader (List α) :=
  match limit with
  | 0 => return []
  | limit + 1 => do
    match ← one with
    | none => return []
    | some value =>
      let others ← collect limit one
      return value :: others

/-- Reads one thing after another until there is none. Each takes a token that has some text. -/
def many {α : Type} (one : Reader (Option α)) : Reader (List α) := do
  collect ((← remaining) + 1) one

/-- Reads things with commas between them, and tells whether there was a comma. Another
thing follows a comma unless `ends` says that the next token ends the list. -/
def separated {α : Type} (ends : Token → Bool) (one : Reader α) : Reader (List α × Bool) := do
  let first ← one
  let others ← many do
    if ← isNext "," then
      let _ ← next
      if ends (← peek) then return some none else return some (some (← one))
    else return none
  return (first :: others.filterMap id, !others.isEmpty)

/-- The fillers in front of the next token, as items of the bracket around them. -/
def fillers : Reader (List Expr) := do
  return (← peek).before.map fun filler =>
    match filler with
    | .comment text => .comment text
    | .continuation => .continuation

end Reader

end Declarations.Source
