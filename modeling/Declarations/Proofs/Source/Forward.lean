/-
This file proves that reading only goes forward: after a reader, the tokens that are left are the
last ones of those that were left before, and reading stopped at the end of the last one that was
taken. Every reader is put together from steps that do so. Being forward is a class, so for a reader
that is built without a case distinction this is found by going through its steps.
-/

import Declarations.Proofs.Source.Readers

namespace Declarations.Source

-- The longer readers have more steps than an instance is usually put together from.
set_option synthInstance.maxSize 20000

/-- The place in front of the tokens of a file. -/
def Cursor.ofText (text : String) : Cursor text.toList.toArray :=
  ⟨tokens text.toList, 0, 1, placed_tokens text.toList⟩

/-- Whether reading stands at a place or after it: the tokens between were taken, and reading
stopped at the end of the last one. -/
def Cursor.IsAfter {text : Array Char} (start cursor : Cursor text) : Prop :=
  ∃ taken, taken ++ cursor.rest = start.rest ∧
    taken.getLast?.elim start.stop (·.stop) = cursor.stop

theorem Cursor.IsAfter.refl {text : Array Char} (cursor : Cursor text) : cursor.IsAfter cursor :=
  ⟨[], rfl, rfl⟩

theorem Cursor.IsAfter.trans {text : Array Char} {first second third : Cursor text}
    (early : first.IsAfter second) (late : second.IsAfter third) : first.IsAfter third := by
  obtain ⟨taken, whole, stop⟩ := early
  obtain ⟨more, rest, last⟩ := late
  refine ⟨taken ++ more, by rw [List.append_assoc, rest, whole], ?_⟩
  rw [← last, ← stop, List.getLast?_append]
  cases more.getLast? <;> rfl

theorem Cursor.IsAfter.suffix {text : Array Char} {start cursor : Cursor text}
    (isAfter : start.IsAfter cursor) : cursor.rest <:+ start.rest :=
  isAfter.imp fun _ taken => taken.1

namespace Reader

variable {α β : Type}

/-- What is read in two steps is what the second one reads after the first. -/
theorem bind_of_ok {text : Array Char} {first : Reader β} {second : β → Reader α}
    {cursor after : Cursor text} {value : β} (read : first text cursor = .ok (value, after)) :
    (first >>= second) text cursor = second value text after := by
  dsimp only [bind]
  rw [read]

/-- Whether a reader takes nothing but the next tokens, one after the other. -/
class Forward (reader : Reader α) : Prop where
  keeps : ∀ (text : Array Char) (start : Cursor text), Keeps start.IsAfter reader

theorem isAfter_of_read {text : Array Char} {reader : Reader α} [forward : Forward reader]
    {cursor after : Cursor text} {value : α} (read : reader text cursor = .ok (value, after)) :
    cursor.IsAfter after :=
  forward.keeps text cursor cursor value after (.refl cursor) read

/-! ### Steps -/

instance (value : α) : Forward (pure value) :=
  ⟨fun _ _ => .pure value⟩

theorem Forward.bind {first : Reader β} {second : β → Reader α} (early : Forward first)
    (late : ∀ value, Forward (second value)) : Forward (first >>= second) :=
  ⟨fun text start => .bind (early.keeps text start) fun value => (late value).keeps text start⟩

instance {first : Reader β} {second : β → Reader α} [early : Forward first]
    [late : ∀ value, Forward (second value)] : Forward (first >>= second) :=
  early.bind late

instance {condition : Prop} [Decidable condition] {first second : Reader α}
    [ofFirst : Forward first] [ofSecond : Forward second] :
    Forward (if condition then first else second) :=
  ⟨fun text start => .ite (ofFirst.keeps text start) (ofSecond.keeps text start)⟩

instance : Forward (refuse : Reader α) :=
  ⟨fun _ _ _ _ _ _ refused => nomatch refused⟩

/-- A reader that takes no token. -/
theorem Forward.of_stays {reader : Reader α}
    (stays : ∀ text cursor value after, reader text cursor = .ok (value, after) → after = cursor) :
    Forward reader :=
  ⟨fun text _ cursor value after isAfter read => stays text cursor value after read ▸ isAfter⟩

instance : Forward peek :=
  .of_stays fun _ _ _ _ read => by
    cases read
    rfl

instance : Forward peekSecond :=
  .of_stays fun _ _ _ _ read => by
    cases read
    rfl

instance : Forward remaining :=
  .of_stays fun _ _ _ _ read => by
    cases read
    rfl

instance : Forward endLine :=
  .of_stays fun _ _ _ _ read => by
    cases read
    rfl

instance (start : Nat) : Forward (textFrom start) :=
  .of_stays fun _ _ _ _ read => by
    cases read
    rfl

instance : Forward next where
  keeps text start cursor token after isAfter read := by
    obtain ⟨taken, whole, stop⟩ := isAfter
    obtain ⟨rest, _, _, placed⟩ := cursor
    cases rest with
    | nil =>
      cases read
      exact ⟨taken, whole, stop⟩
    | cons first rest =>
      cases read
      refine ⟨taken ++ [token], ?_, ?_⟩
      · rw [List.append_assoc]
        exact whole
      · rw [List.getLast?_concat]
        rfl

instance {first second : Reader α} [ofFirst : Forward first] [ofSecond : Forward second] :
    Forward (orElse first second) where
  keeps text start cursor value after isAfter read := by
    unfold orElse at read
    split at read
    next result taken =>
      cases read
      exact ofFirst.keeps text start cursor value after isAfter taken
    next =>
      split at read
      next result taken =>
        cases read
        exact ofSecond.keeps text start cursor value after isAfter taken
      next => cases read

instance (spelling : String) : Forward (isNext spelling) := by
  unfold isNext
  infer_instance

instance (spelling : String) : Forward (accept spelling) := by
  unfold accept
  infer_instance

instance (spellings : List String) : Forward (acceptAny spellings) := by
  unfold acceptAny
  infer_instance

instance (spelling : String) : Forward (expect spelling) := by
  unfold expect
  infer_instance

instance (kind : TokenKind) : Forward (expectKind kind) := by
  unfold expectKind
  infer_instance

instance : Forward fillers := by
  unfold fillers
  infer_instance

/-! ### Repetitions -/

instance {one : Reader (Option α)} [forward : Forward one] (limit : Nat) :
    Forward (collect limit one) :=
  ⟨fun text start => .collect (forward.keeps text start) limit⟩

instance {one : Reader (Option α)} [forward : Forward one] : Forward (many one) :=
  ⟨fun text start => .many (forward.keeps text start)⟩

instance {ends : Token → Bool} {one : Reader α} [Forward one] : Forward (separated ends one) := by
  unfold separated
  infer_instance

end Reader

open Reader

/-- Whether the rules of a nesting level read forward. -/
class ExprRules.Forward (rules : ExprRules) : Prop where
  expression : Reader.Forward rules.expression
  typeExpr : Reader.Forward rules.typeExpr
  pattern : Reader.Forward rules.pattern
  clauses : Reader.Forward rules.clauses

attribute [instance] ExprRules.Forward.expression ExprRules.Forward.typeExpr
  ExprRules.Forward.pattern ExprRules.Forward.clauses

/-! ### Expressions -/

instance {closing : String} {one : Reader (Expr × Bool)} [Reader.Forward one] :
    Reader.Forward (bracketItems closing one) := by
  unfold bracketItems
  infer_instance

instance {operators : List String} {one : Reader Unit} [Reader.Forward one] :
    Reader.Forward (chained operators one) := by
  unfold chained
  infer_instance

section

variable {rules : ExprRules} [rules.Forward]

instance : Reader.Forward (starOrExpression rules) := by
  unfold starOrExpression
  infer_instance

instance (ends : Token → Bool) : Reader.Forward (yieldRest rules ends) := by
  unfold yieldRest
  infer_instance

instance : Reader.Forward (lambdaParameters rules) := by
  unfold lambdaParameters
  infer_instance

instance : Reader.Forward (lambdaRest rules) := by
  unfold lambdaRest
  infer_instance

variable {comprehension : Reader Bool} [Reader.Forward comprehension]

instance : Reader.Forward (argument rules comprehension) := by
  unfold argument
  infer_instance

instance : Reader.Forward (slicePart rules) := by
  unfold slicePart
  infer_instance

instance : Reader.Forward (subscriptItem rules) := by
  unfold subscriptItem
  infer_instance

theorem forward_holeRest : (limit : Nat) → Reader.Forward (holeRest rules limit)
  | 0 => inferInstanceAs (Reader.Forward refuse)
  | limit + 1 => by
    have later := forward_holeRest limit
    unfold holeRest
    dsimp only
    infer_instance

instance (limit : Nat) : Reader.Forward (holeRest rules limit) :=
  forward_holeRest limit

instance : Reader.Forward (literalPart rules) := by
  unfold literalPart
  infer_instance

-- A reader that distinguishes cases has no instance as a whole: its steps are gone through up to
-- the distinction, and each case has one.
instance : Reader.Forward (literalAtom rules) := by
  unfold literalAtom
  repeat' first
    | infer_instance
    | refine .bind inferInstance fun _ => ?_
    | split

instance : Reader.Forward (item rules comprehension) := by
  unfold item
  infer_instance

instance (start : Nat) : Reader.Forward (groupRest rules comprehension start) := by
  unfold groupRest
  infer_instance

instance (start : Nat) : Reader.Forward (listRest rules comprehension start) := by
  unfold listRest
  infer_instance

instance : Reader.Forward (braceItem rules comprehension) := by
  unfold braceItem
  infer_instance

instance (start : Nat) : Reader.Forward (braceRest rules comprehension start) := by
  unfold braceRest
  infer_instance

instance : Reader.Forward (atom rules comprehension) := by
  unfold atom
  repeat' first
    | infer_instance
    | refine .bind inferInstance fun _ => ?_
    | split

theorem forward_trailers (start : Nat) :
    (limit : Nat) → (value : Expr) →
      Reader.Forward (trailers rules comprehension start limit value)
  | 0, value => inferInstanceAs (Reader.Forward (pure value))
  | limit + 1, value => by
    have later := forward_trailers start limit
    unfold trailers
    dsimp only
    infer_instance

instance (start limit : Nat) (value : Expr) :
    Reader.Forward (trailers rules comprehension start limit value) :=
  forward_trailers start limit value

instance : Reader.Forward (primary rules comprehension) := by
  unfold primary
  infer_instance

instance : Reader.Forward signs := by
  unfold signs
  infer_instance

instance : Reader.Forward (signed rules comprehension) := by
  unfold signed
  infer_instance

instance : Reader.Forward (arithmetic rules comprehension) := by
  unfold arithmetic
  infer_instance

theorem forward_bars (start : Nat) :
    (limit : Nat) → (left : Expr) → Reader.Forward (bars rules comprehension start limit left)
  | 0, left => inferInstanceAs (Reader.Forward (pure left))
  | limit + 1, left => by
    have later := forward_bars start limit
    unfold bars
    infer_instance

instance (start limit : Nat) (left : Expr) :
    Reader.Forward (bars rules comprehension start limit left) :=
  forward_bars start limit left

instance : Reader.Forward (alternatives rules comprehension) := by
  unfold alternatives
  infer_instance

instance : Reader.Forward comparisonOperator := by
  unfold comparisonOperator
  infer_instance

instance : Reader.Forward (comparison rules comprehension) := by
  unfold comparison
  infer_instance

instance : Reader.Forward negations := by
  unfold negations
  infer_instance

instance : Reader.Forward (disjunction rules comprehension) := by
  unfold disjunction
  infer_instance

instance : Reader.Forward (targets rules comprehension) := by
  unfold targets
  infer_instance

omit [Reader.Forward comprehension]

instance : Reader.Forward (iterated rules) := by
  unfold iterated
  infer_instance

instance : Reader.Forward (comprehensionClauses rules) := by
  unfold comprehensionClauses
  infer_instance

instance : Reader.Forward (expressionAbove rules) := by
  unfold expressionAbove
  infer_instance

instance (start : Nat) (value : Expr) : Reader.Forward (typeMembers start value) := by
  unfold typeMembers
  infer_instance

instance : Reader.Forward (typeItem rules) := by
  unfold typeItem
  infer_instance

instance : Reader.Forward (typeItems rules) := by
  unfold typeItems
  infer_instance

instance : Reader.Forward (typeAlternative rules) := by
  unfold typeAlternative
  infer_instance

instance : Reader.Forward (typeAbove rules) := by
  unfold typeAbove
  infer_instance

instance : Reader.Forward patternNumber := by
  unfold patternNumber
  infer_instance

instance (closing : String) (one : Reader Unit) [Reader.Forward one] :
    Reader.Forward (patternItems closing one) := by
  unfold patternItems
  infer_instance

instance : Reader.Forward (closedPattern rules) := by
  unfold closedPattern
  repeat' first
    | infer_instance
    | refine .bind inferInstance fun _ => ?_
    | split

instance : Reader.Forward (patternAbove rules) := by
  unfold patternAbove
  infer_instance

instance : ExprRules.none.Forward :=
  ⟨inferInstanceAs (Reader.Forward refuse), inferInstanceAs (Reader.Forward refuse),
    inferInstanceAs (Reader.Forward refuse), inferInstanceAs (Reader.Forward (pure false))⟩

instance : rules.above.Forward :=
  ⟨inferInstanceAs (Reader.Forward (expressionAbove rules)),
    inferInstanceAs (Reader.Forward (typeAbove rules)),
    inferInstanceAs (Reader.Forward (patternAbove rules)),
    inferInstanceAs (Reader.Forward (comprehensionClauses rules))⟩

end

instance (levels : Nat) : (ExprRules.levels levels).Forward := by
  unfold ExprRules.levels
  induction levels with
  | zero => exact inferInstanceAs ExprRules.none.Forward
  | succ levels inductionHypothesis => exact inferInstanceAs (ExprRules.above _).Forward

/-! ### Simple statements -/

instance : Reader.Forward dottedName := by
  unfold dottedName
  infer_instance

instance : Reader.Forward importedName := by
  unfold importedName
  infer_instance

instance (line : Nat) : Reader.Forward (importRest line) := by
  unfold importRest
  infer_instance

instance : Reader.Forward importedNames := by
  unfold importedNames
  infer_instance

instance (line : Nat) (dots : List Nat) (origin : String) :
    Reader.Forward (importFromRest.relative line dots origin) := by
  unfold importFromRest.relative
  infer_instance

instance (line : Nat) : Reader.Forward (importFromRest line) := by
  unfold importFromRest
  infer_instance

section

variable {exprs : ExprRules} [exprs.Forward]

instance (ends : Token → Bool) : Reader.Forward (expressionList exprs ends) := by
  unfold expressionList
  repeat' first
    | infer_instance
    | refine .bind inferInstance fun _ => ?_
    | split

instance (ends : Token → Bool) : Reader.Forward (valueList exprs ends) := by
  unfold valueList
  infer_instance

theorem forward_link : (limit : Nat) → Reader.Forward (expressionStatement.link exprs limit)
  | 0 => inferInstanceAs (Reader.Forward refuse)
  | limit + 1 => by
    have later := forward_link limit
    unfold expressionStatement.link
    dsimp only
    repeat' first
      | infer_instance
      | refine .bind inferInstance fun _ => ?_
      | split

instance (limit : Nat) : Reader.Forward (expressionStatement.link exprs limit) :=
  forward_link limit

instance : Reader.Forward (expressionStatement.oneValue exprs) := by
  unfold expressionStatement.oneValue
  repeat' first
    | infer_instance
    | refine .bind inferInstance fun _ => ?_
    | split

instance : Reader.Forward (expressionStatement exprs) := by
  unfold expressionStatement
  repeat' first
    | infer_instance
    | refine .bind inferInstance fun _ => ?_
    | split

instance : Reader.Forward (typeAlias exprs) := by
  unfold typeAlias
  infer_instance

instance : Reader.Forward nameList := by
  unfold nameList
  infer_instance

instance (keyword : String) : Reader.Forward (plainRest exprs keyword) := by
  unfold plainRest
  repeat' first
    | infer_instance
    | refine .bind inferInstance fun _ => ?_
    | split

instance : Reader.Forward (printRest exprs) := by
  unfold printRest
  infer_instance

instance : Reader.Forward (execRest exprs) := by
  unfold execRest
  infer_instance

instance (rest : Reader Unit) [Reader.Forward rest] :
    Reader.Forward (wordStatement exprs rest) := by
  unfold wordStatement wordStatement.asExpression
  infer_instance

instance : Reader.Forward (simpleStatement exprs) := by
  unfold simpleStatement
  infer_instance

instance : Reader.Forward (simpleLine exprs) := by
  unfold simpleLine
  infer_instance

instance : Reader.Forward (hint exprs) := by
  unfold hint
  infer_instance

instance : Reader.Forward (parameter exprs) := by
  unfold parameter
  repeat' first
    | infer_instance
    | refine .bind inferInstance fun _ => ?_
    | split

instance : Reader.Forward (parametersRest exprs) := by
  unfold parametersRest
  infer_instance

instance : Reader.Forward (typeParameters exprs) := by
  unfold typeParameters
  infer_instance

instance : Reader.Forward (classItem exprs) := by
  unfold classItem
  infer_instance

instance : Reader.Forward classItemsRest.marks := by
  unfold classItemsRest.marks
  infer_instance

instance : Reader.Forward (classItemsRest exprs) := by
  unfold classItemsRest
  infer_instance

end

/-! ### Compound statements -/

/-- Whether the rules for the blocks of a statement read forward. -/
class StmtRules.Forward (rules : StmtRules) : Prop where
  exprs : rules.exprs.Forward
  statement : Reader.Forward rules.statement

attribute [instance] StmtRules.Forward.exprs StmtRules.Forward.statement

section

variable {rules : StmtRules} [rules.Forward]

instance : Reader.Forward (suite rules) := by
  unfold suite
  infer_instance

instance : Reader.Forward (block rules) := by
  unfold block
  infer_instance

instance (keyword : String) : Reader.Forward (optionalClause rules keyword) := by
  unfold optionalClause
  infer_instance

instance : Reader.Forward (ifRest rules) := by
  unfold ifRest
  infer_instance

instance : Reader.Forward (whileRest rules) := by
  unfold whileRest
  infer_instance

instance : Reader.Forward (forRest rules) := by
  unfold forRest
  infer_instance

instance (blocks : List (List Stmt)) : Reader.Forward (tryRest.final rules blocks) := by
  unfold tryRest.final
  infer_instance

instance : Reader.Forward (tryRest rules) := by
  unfold tryRest
  infer_instance

instance : Reader.Forward (contextItem rules) := by
  unfold contextItem
  infer_instance

instance : Reader.Forward (contextItems.plain rules) := by
  unfold contextItems.plain
  infer_instance

instance : Reader.Forward (contextItems.inParentheses rules) := by
  unfold contextItems.inParentheses
  infer_instance

instance : Reader.Forward (contextItems rules) := by
  unfold contextItems
  infer_instance

instance : Reader.Forward (withRest rules) := by
  unfold withRest
  infer_instance

instance : Reader.Forward (matchStatement rules) := by
  unfold matchStatement
  infer_instance

instance (decorators : List String) (isAsync : Bool) (line : Nat) :
    Reader.Forward (functionRest rules decorators isAsync line) := by
  unfold functionRest
  infer_instance

instance (decorators : List String) (line : Nat) :
    Reader.Forward (classRest rules decorators line) := by
  unfold classRest
  infer_instance

instance (start : Nat) : Reader.Forward (decoratorRest rules start) := by
  unfold decoratorRest
  infer_instance

instance : Reader.Forward (decorated rules) := by
  unfold decorated
  infer_instance

instance : Reader.Forward (asyncStatement rules) := by
  unfold asyncStatement
  infer_instance

instance : Reader.Forward (statementAbove rules) := by
  unfold statementAbove
  infer_instance

instance : rules.above.Forward :=
  ⟨inferInstanceAs rules.exprs.Forward, inferInstanceAs (Reader.Forward (statementAbove rules))⟩

end

instance (levels : Nat) : (StmtRules.levels levels).Forward := by
  have exprs : (ExprRules.levels levels).Forward := inferInstance
  unfold StmtRules.levels
  generalize ExprRules.levels levels = rules at exprs
  induction levels with
  | zero => exact ⟨exprs, inferInstanceAs (Reader.Forward refuse)⟩
  | succ levels inductionHypothesis => exact inferInstanceAs (StmtRules.above _).Forward

end Declarations.Source
