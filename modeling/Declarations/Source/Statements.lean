/-
This file reads statements and whole files. As with expressions, each rule is written
against the rules one nesting level below it. A file that cannot be read is refused at
the line where it goes wrong.
-/

import Declarations.Source.Expressions

namespace Declarations.Source

open Reader

/-- The rules that the blocks of a statement may use: those for the expressions of the file,
and those for the statements one nesting level below. -/
structure StmtRules where
  exprs : ExprRules
  statement : Reader (List Stmt)

/-- Whether a token ends a statement. -/
def endsStatement (token : Token) : Bool :=
  token.kind == .lineEnd || token.kind == .fileEnd || isSpelled token ";"

section

variable (exprs : ExprRules)

/-! ### Imports -/

/-- Reads a dotted name with the blanks inside it. -/
def dottedName : Reader String := do
  let start := (← peek).start
  let _ ← expectKind .name
  let _ ← many do
    if ← accept "." then
      let _ ← expectKind .name
      return some ()
    else return none
  textFrom start

/-- Reads an imported name with the name given to it. -/
def importedName : Reader ImportedName := do
  let name ← dottedName
  if ← accept "as" then return ⟨name, some (← expectKind .name).text⟩ else return ⟨name, none⟩

/-- Reads an import of modules after its keyword. -/
def importRest (line : Nat) : Reader Stmt := do
  let (names, _) ← separated endsStatement importedName
  return .importing names line

/-- Reads the names of an import from a module. -/
def importedNames : Reader (List ImportedName) := do
  if ← accept "*" then return [⟨"*", none⟩]
  else if ← accept "(" then
    let (names, _) ← separated (fun token => isSpelled token ")") importedName
    expect ")"
    return names
  else return (← separated endsStatement importedName).1

/-- Reads an import from a module after its keyword. An import of future features brings in
no name. -/
def importFromRest (line : Nat) : Reader Stmt := do
  let dots ← many do
    if ← accept "." then return some 1
    else if ← accept "..." then return some 3
    else return none
  let origin ←
    if dots.isEmpty || (← peek).kind == .name then dottedName else return ← relative dots ""
  relative dots origin
where
  /-- Reads on after the module's name. -/
  relative (dots : List Nat) (origin : String) : Reader Stmt := do
    expect "import"
    let names ← importedNames
    if dots.isEmpty && origin == "__future__" then return .other
    return .importingFrom (dots.foldr (· + ·) 0) origin names line

/-! ### Expressions and assignments -/

/-- Reads expressions with commas between them as one. -/
def expressionList (ends : Token → Bool) : Reader Expr := do
  let start := (← peek).start
  let (items, hasComma) ← separated ends (starOrExpression exprs)
  match items, hasComma with
  | [item], false => return item
  | _, _ => return .other (← textFrom start)

/-- Reads a yield or expressions. -/
def valueList (ends : Token → Bool) : Reader Expr := do
  let start := (← peek).start
  if ← accept "yield" then
    yieldRest exprs ends
    return .other (← textFrom start)
  else expressionList exprs ends

/-- Whether a token cannot go on an expression list in a statement. -/
def endsValue (token : Token) : Bool :=
  endsStatement token || isSpelled token "=" || isSpelled token ":"

/-- Whether values may be assigned to what stands left of an equals sign: one target, or
several with commas. -/
def areTargets (items : List Expr) : Bool :=
  items.all Expr.isTarget

/-- The operators that change a target in place. -/
def augmentations : List String :=
  ["+=", "-=", "*=", "/=", "//=", "%=", "@=", "&=", "|=", "^=", ">>=", "<<=", "**="]

/-- Reads a statement that starts with an expression. -/
def expressionStatement : Reader Stmt := do
  let first ← peek
  if ← accept "yield" then
    yieldRest exprs endsStatement
    return .other
  let (items, hasComma) ← separated endsValue (starOrExpression exprs)
  if ← isNext ":" then
    match items, hasComma with
    | [target], false =>
      if !target.isTarget then refuse
      expect ":"
      let hint ← exprs.typeExpr
      if ← accept "=" then
        let value ← oneValue
        return .assignment target (some hint) (some value) first.line
      else return .assignment target (some hint) none first.line
    | _, _ => refuse
  else if ← isNext "=" then
    if !areTargets items then refuse
    expect "="
    let value ← oneValue
    match items, hasComma with
    | [target], false => return .assignment target none (some value) first.line
    | _, _ => return .other
  else if ← acceptAny augmentations then
    if !areTargets items then refuse
    let _ ← valueList exprs endsStatement
    return .other
  else
    match items, hasComma with
    | [value], false => return .expression value
    | _, _ => return .other
where
  /-- Reads the right side up to the end of the statement. -/
  oneValue : Reader Expr := do
    let start := (← peek).start
    let value ← link (← remaining)
    match value with
    | some value => return value
    | none => return .other (← textFrom start)
  /-- Reads the links of a chain of assignments; a single one gives its value. -/
  link : Nat → Reader (Option Expr)
    | 0 => refuse
    | limit + 1 => do
      if ← accept "yield" then
        yieldRest exprs endsStatement
        return none
      let (items, hasComma) ← separated endsValue (starOrExpression exprs)
      if ← isNext "=" then
        if !areTargets items then refuse
        expect "="
        let _ ← link limit
        return none
      match items, hasComma with
      | [item], false => return some item
      | _, _ => return none

/-- Reads a type alias: the word, a name, and what it stands for. -/
def typeAlias : Reader Stmt := do
  let first ← peek
  if !(first.kind == .name && first.text == "type") then refuse
  let _ ← next
  let beforeName ← fillers
  let name ← exprs.typeExpr
  let beforeSign ← fillers
  expect "="
  let beforeValue ← fillers
  let value ← exprs.typeExpr
  if !endsStatement (← peek) then refuse
  return .typeAlias (beforeName ++ name :: beforeSign ++ beforeValue ++ [value]) first.line

/-! ### Simple statements -/

/-- Reads names with commas between them. -/
def nameList : Reader Unit := do
  let _ ← separated (fun _ => false) (expectKind .name)

/-- Reads what follows the keyword of a statement that declares nothing. -/
def plainRest (keyword : String) : Reader Unit := do
  match keyword with
  | "pass" | "break" | "continue" => return ()
  | "global" | "nonlocal" => nameList
  | "return" =>
    if !endsStatement (← peek) then
      let _ ← expressionList exprs endsStatement
  | "raise" =>
    if !endsStatement (← peek) then
      let _ ← expressionList exprs endsStatement
      if ← accept "from" then
        let _ ← exprs.expression
  | "del" =>
    let (items, _) ← separated endsStatement exprs.expression
    if !areTargets items then refuse
  | "assert" =>
    let _ ← separated (fun _ => false) exprs.expression
  | _ => refuse

/-- Reads a statement of version 2 that prints values after its word, into a file or not. -/
def printRest : Reader Unit := do
  let _ ← accept ">>"
  let _ ← separated endsStatement exprs.expression

/-- Reads a statement of version 2 that runs a text after its word, in given scopes or not. -/
def execRest : Reader Unit := do
  if startsLiteral (← peek) then
    let _ ← literalPart exprs
  else
    let _ ← expectKind .name
  if ← accept "in" then
    let _ ← separated (fun _ => false) exprs.expression

/-- Reads a statement that starts with one of the words of version 2: as an expression where it
is one, such as a call. -/
def wordStatement (rest : Reader Unit) : Reader Stmt :=
  orElse asExpression do
    let _ ← next
    rest
    return .other
where
  /-- Reads on up to the end of the statement. -/
  asExpression : Reader Stmt := do
    let statement ← expressionStatement exprs
    if endsStatement (← peek) then return statement else refuse

/-- Reads a simple statement. -/
def simpleStatement : Reader Stmt := do
  let token ← peek
  if token.kind == .keyword then
    if ← accept "import" then importRest token.line
    else if ← accept "from" then importFromRest token.line
    else if ← acceptAny ["pass", "break", "continue", "global", "nonlocal", "return", "raise",
        "del", "assert"] then
      plainRest exprs token.text
      return .other
    else expressionStatement exprs
  else if token.kind == .name && token.text == "type" then
    orElse (typeAlias exprs) (expressionStatement exprs)
  else if token.kind == .name && token.text == "print" then wordStatement exprs (printRest exprs)
  else if token.kind == .name && token.text == "exec" then wordStatement exprs (execRest exprs)
  else expressionStatement exprs

/-- Reads the simple statements of a line. -/
def simpleLine : Reader (List Stmt) := do
  let first ← simpleStatement exprs
  let others ← many do
    if ← accept ";" then
      if (← peek).kind == .lineEnd then return some none
      return some (some (← simpleStatement exprs))
    else return none
  let _ ← expectKind .lineEnd
  return first :: others.filterMap id

/-! ### Parameters and class headers -/

/-- Reads the hint of a parameter, if it has one. -/
def hint : Reader (Option Expr) := do
  if ← accept ":" then return some (← exprs.typeExpr) else return none

/-- Reads an entry of a parameter list. -/
def parameter : Reader ParameterItem := do
  let start := (← peek).start
  if ← accept "/" then return .positionMark
  else if ← accept "**" then
    let name ← expectKind .name
    return .doubleStarred name.text (← hint exprs)
  else if ← accept "*" then
    if (← peek).kind == .name then
      let name ← next
      return .starred name.text (← hint exprs)
    else return .keywordMark
  else if ← isNext "(" then
    let pattern ← exprs.expression
    if !pattern.isTarget then refuse
    let text ← textFrom start
    if ← accept "=" then
      let value ← exprs.expression
      return .defaulted text none value.text
    else return .pattern
  else
    let name ← expectKind .name
    let type ← hint exprs
    if ← accept "=" then
      let value ← exprs.expression
      return .defaulted name.text type value.text
    else
      match type with
      | some type => return .typed name.text type
      | none => return .plain name.text

/-- Reads a parameter list after its opening parenthesis. -/
def parametersRest : Reader (List ParameterItem) := do
  if ← accept ")" then return []
  let (items, _) ← separated (fun token => isSpelled token ")") (parameter exprs)
  expect ")"
  return items

/-- Reads type parameters, which declare nothing. -/
def typeParameters : Reader Unit := do
  if ← accept "[" then
    let _ ← typeItems exprs

/-- Reads an entry of a class header. -/
def classItem : Reader ClassItem := do
  if ← acceptAny ["*", "**"] then
    let _ ← exprs.expression
    return .spread
  else if (← peek).kind == .name && isSpelled (← peekSecond) "=" then
    let name ← next
    expect "="
    return .keyword name.text (← exprs.expression)
  else return .base (← exprs.expression)

/-- Reads the entries of a class header after its opening parenthesis. Line continuations
between entries count as bases, comments do not. -/
def classItemsRest : Reader (List ClassItem) := do
  let groups ← many do
    let before ← marks
    if ← isNext ")" then return none
    let item ← classItem exprs
    let after ← marks
    if ← isNext ")" then return some (before ++ [item])
    expect ","
    return some (before ++ item :: after)
  let last ← marks
  expect ")"
  return groups.flatten ++ last
where
  /-- The line continuations in front of the next token. -/
  marks : Reader (List ClassItem) := do
    return ((← fillers).filter fun item => !item.isComment).map .base

end

/-! ### Compound statements -/

section

variable (rules : StmtRules)

/-- Reads the body of a clause with its colon, and the line where it ends. A body is a line of
statements, an indented block, or nothing. -/
def suite : Reader (List Stmt × Nat) := do
  expect ":"
  if (← peek).kind == .indent then
    let _ ← next
    let body ← many do
      if (← peek).kind == .outdent then return none else return some (← rules.statement)
    let _ ← expectKind .outdent
    return (body.flatten, ← endLine)
  else if (← peek).kind == .lineEnd then
    let _ ← next
    return ([], ← endLine)
  else
    let body ← simpleLine rules.exprs
    return (body, ← endLine)

/-- Reads a body whose end does not matter. -/
def block : Reader (List Stmt) := do
  return (← suite rules).1

/-- Reads a clause that may be missing. -/
def optionalClause (keyword : String) : Reader (List (List Stmt)) := do
  if ← accept keyword then return [← block rules] else return []

/-- Reads a conditional after its keyword. -/
def ifRest : Reader Stmt := do
  let _ ← rules.exprs.expression
  let first ← block rules
  let others ← many do
    if ← accept "elif" then
      let _ ← rules.exprs.expression
      return some (← block rules)
    else return none
  let last ← optionalClause rules "else"
  return .clauses (first :: others ++ last)

/-- Reads a loop over a condition after its keyword. -/
def whileRest : Reader Stmt := do
  let _ ← rules.exprs.expression
  let first ← block rules
  let last ← optionalClause rules "else"
  return .loop (first :: last)

/-- Reads a loop over values after its keyword. -/
def forRest : Reader Stmt := do
  targets rules.exprs rules.exprs.clauses
  expect "in"
  let _ ← expressionList rules.exprs fun token => isSpelled token ":"
  let first ← block rules
  let last ← optionalClause rules "else"
  return .loop (first :: last)

/-- Reads the clauses that handle errors, at least one of them or a final clause. -/
def tryRest : Reader Stmt := do
  let first ← block rules
  let handlers ← many do
    if ← accept "except" then
      let _ ← accept "*"
      if !(← isNext ":") then
        let _ ← rules.exprs.expression
        if ← acceptAny ["as", ","] then
          let _ ← rules.exprs.expression
      return some (← block rules)
    else return none
  let otherwise ← if handlers.isEmpty then return ← final [first] else optionalClause rules "else"
  let last ← optionalClause rules "finally"
  return .clauses (first :: handlers ++ otherwise ++ last)
where
  /-- Reads the final clause, which must be there. -/
  final (blocks : List (List Stmt)) : Reader Stmt := do
    expect "finally"
    return .clauses (blocks ++ [← block rules])

/-- Reads an entry of a context statement. -/
def contextItem : Reader Unit := do
  let _ ← rules.exprs.expression
  if ← accept "as" then
    let target ← starOrExpression rules.exprs
    if !target.isTarget then refuse

/-- Reads the entries of a context statement, in parentheses or not. -/
def contextItems : Reader Unit :=
  orElse plain inParentheses
where
  /-- Entries up to the colon. -/
  plain : Reader Unit := do
    let _ ← separated (fun _ => false) (contextItem rules)
    if !(← isNext ":") then refuse
  /-- Entries between parentheses. -/
  inParentheses : Reader Unit := do
    expect "("
    let _ ← separated (fun token => isSpelled token ")") (contextItem rules)
    expect ")"

/-- Reads a context statement after its keyword. -/
def withRest : Reader Stmt := do
  contextItems rules
  return .clauses [← block rules]

/-- Reads a match statement: the word, a subject, and cases. -/
def matchStatement : Reader Stmt := do
  let first ← peek
  if !(first.kind == .name && first.text == "match") then refuse
  let _ ← next
  let _ ← expressionList rules.exprs fun token => isSpelled token ":"
  expect ":"
  let _ ← expectKind .indent
  let cases ← many do
    let token ← peek
    if token.kind == .name && token.text == "case" then
      let _ ← next
      let _ ← separated (fun token => isSpelled token ":" || isSpelled token "if")
        rules.exprs.pattern
      if ← accept "if" then
        let _ ← rules.exprs.expression
      return some (← block rules)
    else return none
  if cases.isEmpty then refuse
  let _ ← expectKind .outdent
  return .loop cases

/-- Reads a function definition after its keyword. -/
def functionRest (decorators : List String) (isAsync : Bool) (line : Nat) : Reader Stmt := do
  let name ← expectKind .name
  typeParameters rules.exprs
  expect "("
  let parameters ← parametersRest rules.exprs
  let returns ← if ← accept "->" then pure (some (← rules.exprs.typeExpr)) else pure none
  let (body, endLine) ← suite rules
  return .function ⟨name.text, parameters, returns, decorators, isAsync, line, endLine⟩ body

/-- Reads a class definition after its keyword. -/
def classRest (decorators : List String) (line : Nat) : Reader Stmt := do
  let name ← expectKind .name
  typeParameters rules.exprs
  let items ← if ← accept "(" then classItemsRest rules.exprs else pure []
  let (body, endLine) ← suite rules
  return .classDef ⟨name.text, items, decorators, line, endLine⟩ body

/-- Reads a decorator after its sign that began at `start`: its text goes on to the end of the
line, a comment included. -/
def decoratorRest (start : Nat) : Reader String := do
  let _ ← rules.exprs.expression
  let _ ← expectKind .lineEnd
  textFrom start

/-- Reads a definition with its decorators. -/
def decorated : Reader Stmt := do
  let decorators ← many do
    let start := (← peek).start
    if ← accept "@" then return some (← decoratorRest rules start) else return none
  let line := (← peek).line
  if ← accept "class" then classRest rules decorators line
  else
    let isAsync ← accept "async"
    expect "def"
    functionRest rules decorators isAsync line

/-- Reads a statement that starts with the word for asynchrony. -/
def asyncStatement : Reader Stmt := do
  let second ← peekSecond
  if isSpelled second "def" then decorated rules
  else if isSpelled second "for" then
    let _ ← next
    let _ ← next
    forRest rules
  else if isSpelled second "with" then
    let _ ← next
    let _ ← next
    withRest rules
  else refuse

/-- Reads a compound statement, or the simple statements of a line. -/
def statementAbove : Reader (List Stmt) := do
  let token ← peek
  if isSpelled token "def" || isSpelled token "class" || isSpelled token "@" then
    return [← decorated rules]
  else if isSpelled token "async" then return [← asyncStatement rules]
  else if ← accept "if" then return [← ifRest rules]
  else if ← accept "while" then return [← whileRest rules]
  else if ← accept "for" then return [← forRest rules]
  else if ← accept "try" then return [← tryRest rules]
  else if ← accept "with" then return [← withRest rules]
  else if token.kind == .name && token.text == "match" then
    orElse (do return [← matchStatement rules]) (simpleLine rules.exprs)
  else simpleLine rules.exprs

/-- The rules one nesting level above. -/
def StmtRules.above : StmtRules :=
  ⟨rules.exprs, statementAbove rules⟩

end

/-- The rules for statements that nest at most `levels` deep. -/
def StmtRules.levels (levels : Nat) : StmtRules :=
  Nat.repeat StmtRules.above levels ⟨ExprRules.levels levels, refuse⟩

/-! ### Whole files -/

/-- Reads statements up to the end of the file. -/
def wholeFile (rules : StmtRules) : Reader (List Stmt) := do
  let statements ← many do
    if (← peek).kind == .fileEnd then return none else return some (← rules.statement)
  return statements.flatten

/-- The statements of a source file, or the line where it goes wrong: that of a bracket which
stays open when reading stops after it. -/
def parse (text : String) : Except Nat (List Stmt) :=
  let characters := text.toList
  let tokens := tokens characters
  let rules := StmtRules.levels (tokens.length + 1)
  match wholeFile rules characters.toArray ⟨tokens, 0, 1, placed_tokens characters⟩ with
  | .ok (statements, _) => .ok statements
  | .error refusal => .error (min refusal.line (tokens.getLast?.elim refusal.line (·.line)))

end Declarations.Source
