/-
This file reads expressions, type positions and match patterns. Each rule is written
against the rules one nesting level below it, so no rule refers to itself; the rules for
a file are the levels stacked as often as the file has tokens, which is more than any of
its expressions nests.
-/

import Declarations.Source.Cursor

namespace Declarations.Source

open Reader

/-- The rules of one nesting level that the level above it may use. -/
structure ExprRules where
  expression : Reader Expr
  typeExpr : Reader Expr
  pattern : Reader Unit
  /-- Reads the clauses of a comprehension, and tells whether there are any. -/
  clauses : Reader Bool

/-- The level that reads nothing. -/
def ExprRules.none : ExprRules :=
  ⟨refuse, refuse, refuse, return false⟩

/-! ### Brackets -/

/-- What was read between two brackets. -/
structure BracketContents where
  items : List Expr
  hasComma : Bool
  isComprehension : Bool

/-- Reads items with commas between them up to and including the closing bracket. A comprehension
stands alone, without a comma. -/
def bracketItems (closing : String) (one : Reader (Expr × Bool)) : Reader BracketContents := do
  let groups ← many do
    if ← isNext closing then return Option.none
    let before ← fillers
    let (item, isComprehension) ← one
    if ← isNext closing then return some (before ++ [item], false, isComprehension)
    if isComprehension then refuse
    let between ← fillers
    expect ","
    return some (before ++ item :: between, true, isComprehension)
  let last ← fillers
  let isComprehension := groups.any (·.2.2)
  if isComprehension && groups.length > 1 then refuse
  expect closing
  return ⟨groups.flatMap (·.1) ++ last, groups.any (·.2.1), isComprehension⟩

/-- Reads the operators of a chain and what stands between them. -/
def chained (operators : List String) (one : Reader Unit) : Reader Bool := do
  let found ← many do
    let token ← peek
    if operators.any (isSpelled token) then
      let _ ← next
      one
      return some ()
    else return Option.none
  return !found.isEmpty

section

variable (rules : ExprRules)

/-! ### Parts of expressions that use the level below -/

/-- Reads an expression, or a starred one. -/
def starOrExpression : Reader Expr := do
  let start := (← peek).start
  if ← accept "*" then
    let inner ← rules.expression
    return .starred inner (← textFrom start)
  else rules.expression

/-- Reads a yield after its keyword. -/
def yieldRest (ends : Token → Bool) : Reader Unit := do
  if ← accept "from" then
    let _ ← rules.expression
  else if !ends (← peek) then
    let _ ← separated ends (starOrExpression rules)

/-- Reads the parameters of a lambda up to its colon. -/
def lambdaParameters : Reader Unit := do
  let _ ← many do
    if ← isNext ":" then return Option.none
    if ← accept "/" then pure ()
    else if ← accept "(" then
      let _ ← bracketItems ")" do return (← rules.expression, false)
    else
      let starred ← accept "*"
      let _ ← accept "**"
      if !starred || (← peek).kind == .name then
        let _ ← expectKind .name
    if ← accept "=" then
      let _ ← rules.expression
    if ← isNext ":" then return some ()
    expect ","
    return some ()

/-- Reads a lambda after its keyword. -/
def lambdaRest : Reader Unit := do
  lambdaParameters rules
  expect ":"
  let _ ← rules.expression

/-- Reads an argument of a call. -/
def argument (comprehension : Reader Bool) : Reader (Expr × Bool) := do
  let start := (← peek).start
  if ← acceptAny ["*", "**"] then
    let _ ← rules.expression
    return (.other (← textFrom start), false)
  else if (← peek).kind == .name && isSpelled (← peekSecond) "=" then
    let _ ← next
    expect "="
    let _ ← rules.expression
    return (.other (← textFrom start), false)
  else
    let value ← rules.expression
    return (value, ← comprehension)

/-- Reads one part of a slice, which may be missing. -/
def slicePart : Reader Unit := do
  if (← isNext ":") || (← isNext ",") || (← isNext "]") then return ()
  let _ ← rules.expression

/-- Reads an item of a subscript: an expression or a slice. -/
def subscriptItem : Reader (Expr × Bool) := do
  let start := (← peek).start
  let value ←
    if ← isNext ":" then pure (Expr.other "") else starOrExpression rules
  if ← accept ":" then
    slicePart rules
    if ← accept ":" then slicePart rules
    return (.other (← textFrom start), false)
  else return (value, false)

/-! ### Atoms and what follows them -/

/-- Whether a token ends the expressions in a hole of a string literal. -/
def endsHole (token : Token) : Bool :=
  token.kind == .textBetween || token.kind == .textClosing || token.kind == .conversion ||
    isSpelled token "=" || isSpelled token ":" || isSpelled token "\x7d"

/-- Reads what a hole holds: expressions, and how they are shown. In a format there may be further
holes. -/
def holeRest : Nat → Reader Unit
  | 0 => refuse
  | limit + 1 => do
    if ← accept "yield" then yieldRest rules endsHole
    else
      let _ ← separated endsHole (starOrExpression rules)
    let _ ← accept "="
    if (← peek).kind == .conversion then
      let _ ← next
    if ← accept ":" then
      let _ ← many do
        if (← peek).kind == .formatText then
          let _ ← next
          return some ()
        else if ← accept "\x7b" then
          holeRest limit
          expect "\x7d"
          return some ()
        else return Option.none

/-- Whether a string literal starts at a token. -/
def startsLiteral (token : Token) : Bool :=
  token.kind == .text || token.kind == .textOpening

/-- Reads a string literal, with the expressions in it. -/
def literalPart : Reader String := do
  let first ← peek
  if !startsLiteral first then refuse
  let _ ← next
  if first.kind == .textOpening then
    holeRest rules (← remaining)
    let _ ← many do
      if (← peek).kind == .textBetween then
        let _ ← next
        holeRest rules (← remaining)
        return some ()
      else return Option.none
    let _ ← expectKind .textClosing
  textFrom first.start

/-- Reads one string literal after another. -/
def literalAtom : Reader Expr := do
  let start := (← peek).start
  let parts ← many do
    if startsLiteral (← peek) then return some (← literalPart rules) else return Option.none
  match parts with
  | [part] => return .literal part
  | parts => return .literals parts (← textFrom start)

/-- Reads an item of a list or a group: an expression or a starred one, and the clauses after the
former. -/
def item (comprehension : Reader Bool) : Reader (Expr × Bool) := do
  let value ← starOrExpression rules
  if value.isStarred then return (value, false) else return (value, ← comprehension)

/-- Reads what parentheses hold after the opening one. -/
def groupRest (comprehension : Reader Bool) (start : Nat) : Reader Expr := do
  let contents ← bracketItems ")" do
    let itemStart := (← peek).start
    if ← accept "yield" then
      yieldRest rules fun token => isSpelled token ")"
      return (.other (← textFrom itemStart), false)
    else item rules comprehension
  let text ← textFrom start
  if contents.isComprehension then return .other text
  if contents.hasComma || contents.items.all Expr.isFiller then return .tuple contents.items text
  return .group contents.items text

/-- Reads what square brackets hold after the opening one. -/
def listRest (comprehension : Reader Bool) (start : Nat) : Reader Expr := do
  let contents ← bracketItems "]" (item rules comprehension)
  let text ← textFrom start
  return if contents.isComprehension then .other text else .list contents.items text

/-- Reads an item between braces: an element or an entry, and the clauses after it. -/
def braceItem (comprehension : Reader Bool) : Reader (Expr × Bool) := do
  let start := (← peek).start
  if ← accept "**" then
    let _ ← rules.expression
    return (.entry (← textFrom start), false)
  else if ← accept "*" then
    let _ ← rules.expression
    return (.other (← textFrom start), false)
  else
    let value ← rules.expression
    if ← accept ":" then
      let _ ← rules.expression
      let entry := Expr.entry (← textFrom start)
      return (entry, ← comprehension)
    else return (value, ← comprehension)

/-- Reads what braces hold after the opening one: elements only, or entries only. -/
def braceRest (comprehension : Reader Bool) (start : Nat) : Reader Expr := do
  let contents ← bracketItems "\x7d" (braceItem rules comprehension)
  let items := contents.items.filter fun item => !item.isFiller
  if items.any Expr.isEntry && !items.all Expr.isEntry then refuse
  return .other (← textFrom start)

/-- Reads an atom. -/
def atom (comprehension : Reader Bool) : Reader Expr := do
  let token ← peek
  match token.kind with
  | .name => return .name (← next).text
  | .number => return .constant (← next).text
  | .text | .textOpening => literalAtom rules
  | .keyword =>
    if ← accept "None" then return .absent
    else if ← acceptAny ["True", "False"] then return .constant token.text
    else refuse
  | .operator =>
    if ← accept "..." then return .ellipsis
    else if ← accept "(" then groupRest rules comprehension token.start
    else if ← accept "[" then listRest rules comprehension token.start
    else if ← accept "\x7b" then braceRest rules comprehension token.start
    else refuse
  | _ => refuse

/-- Reads the attributes, calls and subscripts after an expression that began at `start`. -/
def trailers (comprehension : Reader Bool) (start : Nat) : Nat → Expr → Reader Expr
  | 0, value => return value
  | limit + 1, value => do
    if ← accept "." then
      let _ ← expectKind .name
      trailers comprehension start limit (.member (← textFrom start))
    else if ← accept "(" then
      let _ ← bracketItems ")" (argument rules comprehension)
      trailers comprehension start limit (.other (← textFrom start))
    else if ← accept "[" then
      let contents ← bracketItems "]" (subscriptItem rules)
      let items := contents.items.filter fun item => !item.isFiller
      if items.isEmpty then refuse
      trailers comprehension start limit (.subscript value.text items (← textFrom start))
    else return value

/-- Reads an atom with its trailers, awaited or not. -/
def primary (comprehension : Reader Bool) : Reader Expr := do
  let start := (← peek).start
  let awaited ← accept "await"
  let innerStart := (← peek).start
  let value ← atom rules comprehension
  let value ← trailers rules comprehension innerStart (← remaining) value
  if awaited then return .other (← textFrom start) else return value

/-! ### Operators -/

/-- Takes the signs in front of an operand. -/
def signs : Reader Bool := do
  let found ← many do
    if ← acceptAny ["-", "+", "~"] then return some ()
    else return Option.none
  return !found.isEmpty

/-- Reads an operand with its signs and powers. -/
def signed (comprehension : Reader Bool) : Reader Expr := do
  let start := (← peek).start
  let hasSign ← signs
  let value ← primary rules comprehension
  let hasPower ← chained ["**"] do
    let _ ← signs
    let _ ← primary rules comprehension
  if hasSign then return .constant (← textFrom start)
  else if hasPower then return .other (← textFrom start)
  else return value

/-- Reads operands joined by the operators that bind more tightly than the bar. -/
def arithmetic (comprehension : Reader Bool) : Reader Expr := do
  let start := (← peek).start
  let value ← signed rules comprehension
  let joined ← chained ["+", "-", "*", "/", "//", "%", "@", "<<", ">>", "&", "^"] do
    let _ ← signed rules comprehension
  if joined then return .other (← textFrom start) else return value

/-- Reads the right sides of bars after an expression that began at `start`. -/
def bars (comprehension : Reader Bool) (start : Nat) : Nat → Expr → Reader Expr
  | 0, left => return left
  | limit + 1, left => do
    if ← accept "|" then
      let right ← arithmetic rules comprehension
      bars comprehension start limit (.either left right (← textFrom start))
    else return left

/-- Reads operands joined by bars. -/
def alternatives (comprehension : Reader Bool) : Reader Expr := do
  let start := (← peek).start
  let first ← arithmetic rules comprehension
  bars rules comprehension start (← remaining) first

/-- Takes a comparison operator of one or two words. -/
def comparisonOperator : Reader Bool := do
  let token ← peek
  if ["<", "<=", "==", "!=", ">=", ">", "<>", "in"].any (isSpelled token) then
    let _ ← next
    return true
  else if isSpelled token "not" && isSpelled (← peekSecond) "in" then
    let _ ← next
    let _ ← next
    return true
  else if ← accept "is" then
    let _ ← accept "not"
    return true
  else return false

/-- Reads a comparison. -/
def comparison (comprehension : Reader Bool) : Reader Expr := do
  let start := (← peek).start
  let value ← alternatives rules comprehension
  let others ← many do
    if ← comparisonOperator then
      let _ ← alternatives rules comprehension
      return some ()
    else return Option.none
  if others.isEmpty then return value else return .other (← textFrom start)

/-- Takes the negations in front of a comparison. -/
def negations : Reader Bool := do
  let found ← many do
    if ← accept "not" then return some () else return Option.none
  return !found.isEmpty

/-- Reads comparisons joined by boolean operators. -/
def disjunction (comprehension : Reader Bool) : Reader Expr := do
  let start := (← peek).start
  let negated ← negations
  let value ← comparison rules comprehension
  let joined ← chained ["and", "or"] do
    let _ ← negations
    let _ ← comparison rules comprehension
  if negated || joined then return .other (← textFrom start) else return value

/-- Reads the targets of a loop up to the word for membership. -/
def targets (comprehension : Reader Bool) : Reader Unit := do
  let _ ← separated (fun token => isSpelled token "in") do
    let _ ← accept "*"
    let target ← primary rules comprehension
    if !target.isTarget then refuse

/-- Whether a token ends what a clause of a comprehension runs over. -/
def endsClause (token : Token) : Bool :=
  [")", "]", "\x7d", "for", "async", "if"].any (isSpelled token)

/-- Reads one of the values that a clause of a comprehension runs over. A lambda there leaves a
condition that follows to the clause. -/
def iterated : Reader Unit := do
  let _ ← many do
    if ← accept "lambda" then
      lambdaParameters rules
      expect ":"
      return some ()
    else return Option.none
  let _ ← disjunction rules rules.clauses

/-- Reads the clauses of a comprehension, and tells whether there are any. The level below
reads what its clauses run over. -/
def comprehensionClauses : Reader Bool := do
  let clauses ← many do
    let token ← peek
    if isSpelled token "for" || (isSpelled token "async" && isSpelled (← peekSecond) "for") then
      let _ ← accept "async"
      expect "for"
      targets rules rules.clauses
      expect "in"
      let _ ← separated endsClause (iterated rules)
      let _ ← many do
        if ← accept "if" then
          let _ ← disjunction rules rules.clauses
          return some ()
        else return Option.none
      return some ()
    else return Option.none
  return !clauses.isEmpty

/-- Reads an expression. -/
def expressionAbove : Reader Expr := do
  let start := (← peek).start
  let comprehension := comprehensionClauses rules
  if ← accept "lambda" then
    lambdaRest rules
    return .other (← textFrom start)
  else if (← peek).kind == .name && isSpelled (← peekSecond) ":=" then
    let _ ← next
    expect ":="
    let _ ← rules.expression
    return .other (← textFrom start)
  else
    let value ← disjunction rules comprehension
    if ← accept "if" then
      let _ ← disjunction rules comprehension
      expect "else"
      let _ ← rules.expression
      return .other (← textFrom start)
    else return value

/-! ### Type positions -/

/-- The names that are read as part of an expression even where a subscript follows. -/
def expressionNames : List String :=
  ["match", "print", "exec"]

/-- Reads the attributes after a subscripted name that began at `start`. -/
def typeMembers (start : Nat) (value : Expr) : Reader Expr := do
  let members ← many do
    if ← accept "." then
      let _ ← expectKind .name
      return some ()
    else return Option.none
  if members.isEmpty then return value else return .member (← textFrom start)

/-- Reads an item between the brackets of a subscripted name, bounded or not. -/
def typeItem : Reader (Expr × Bool) := do
  let start := (← peek).start
  let value ← rules.typeExpr
  if ← accept ":" then
    let _ ← rules.typeExpr
    return (.other (← textFrom start), false)
  else return (value, false)

/-- Reads the bracket of a subscripted name after its opening. -/
def typeItems : Reader (List Expr) := do
  let contents ← bracketItems "]" (typeItem rules)
  if contents.items.all Expr.isFiller then refuse else return contents.items

/-- Reads one alternative of a type: a starred name, a subscripted name, or an expression. -/
def typeAlternative : Reader Expr := do
  let token ← peek
  if ← acceptAny ["*", "**"] then
    let _ ← expectKind .name
    return .other (← textFrom token.start)
  else if token.kind == .name && !expressionNames.contains token.text &&
      isSpelled (← peekSecond) "[" then
    let _ ← next
    expect "["
    let items ← typeItems rules
    typeMembers token.start (.generic token.text items (← textFrom token.start))
  else expressionAbove rules

/-- Reads a type: alternatives with bars between them. -/
def typeAbove : Reader Expr := do
  let start := (← peek).start
  let first ← typeAlternative rules
  let others ← many do
    if ← isNext "|" then
      let before ← fillers
      expect "|"
      let after ← fillers
      let value ← typeAlternative rules
      return some (before ++ after ++ [value])
    else return Option.none
  if others.isEmpty then return first
  else return .choice (first :: others.flatten) (← textFrom start)

/-! ### Match patterns -/

/-- Reads a number of a pattern, signed or complex. -/
def patternNumber : Reader Unit := do
  let _ ← accept "-"
  let _ ← expectKind .number
  if ← acceptAny ["+", "-"] then
    let _ ← expectKind .number

/-- Reads patterns with commas between them up to and including the closing bracket. -/
def patternItems (closing : String) (one : Reader Unit) : Reader Unit := do
  let _ ← bracketItems closing do
    one
    return (.other "", false)

/-- Reads a pattern that stands on its own. -/
def closedPattern : Reader Unit := do
  let token ← peek
  match token.kind with
  | .number => patternNumber
  | .text | .textOpening =>
    let _ ← literalAtom rules
  | .name =>
    let _ ← next
    let _ ← typeMembers token.start .absent
    if ← accept "(" then
      patternItems ")" do
        if (← peek).kind == .name && isSpelled (← peekSecond) "=" then
          let _ ← next
          expect "="
        rules.pattern
  | .keyword =>
    if ← acceptAny ["None", "True", "False"] then return () else refuse
  | .operator =>
    if ← isNext "-" then patternNumber
    else if ← accept "(" then patternItems ")" rules.pattern
    else if ← accept "[" then patternItems "]" rules.pattern
    else if ← accept "\x7b" then
      patternItems "\x7d" do
        if ← accept "**" then
          let _ ← expectKind .name
        else
          rules.pattern
          expect ":"
          rules.pattern
    else refuse
  | _ => refuse

/-- Reads a pattern with its alternatives and its name. -/
def patternAbove : Reader Unit := do
  let _ ← accept "*"
  closedPattern rules
  let _ ← chained ["|"] (closedPattern rules)
  if ← accept "as" then
    let _ ← expectKind .name

/-- The rules one nesting level above. -/
def ExprRules.above : ExprRules :=
  ⟨expressionAbove rules, typeAbove rules, patternAbove rules, comprehensionClauses rules⟩

end

/-- The rules for expressions that nest at most `levels` deep. -/
def ExprRules.levels (levels : Nat) : ExprRules :=
  Nat.repeat ExprRules.above levels ExprRules.none

end Declarations.Source
