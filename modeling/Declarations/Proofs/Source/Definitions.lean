/-
This file says how function definitions are written, and proves that one is read as it is written.
So a file that is a definition and nothing else is read as that definition.
-/

import Declarations.Proofs.Source.Parameters

namespace Declarations.Source

open Reader

/-! ### Definitions -/

section

variable {text : Array Char}

/-- Whether the definition of a name stands at a place, with its parameter list behind another. -/
def Cursor.Begins {text : Array Char} (exprs : ExprRules) (definition : Cursor text) (name : String)
    (list : Cursor text) : Prop :=
  ∃ atName behindName opening : Cursor text, definition.Sign "def" atName ∧
    atName.Name name behindName ∧ typeParameters exprs text behindName = .ok ((), opening) ∧
      opening.Sign "(" list

/-- Whether the definition of a function stands between two places, from its keyword to the end of
its body. -/
def FunctionHeader.Written (rules : StmtRules) (header : FunctionHeader) (body : List Stmt)
    (definition last : Cursor text) : Prop :=
  ∃ list behindList behindResult : Cursor text,
    definition.Begins rules.exprs header.name list ∧
      ParametersWritten rules.exprs header.parameters list behindList ∧
        Behind "->" rules.exprs.typeExpr header.returns behindList behindResult ∧
          suite rules text behindResult = .ok ((body, header.endLine), last)

variable {rules : StmtRules} {definition list last : Cursor text} {name : String}

theorem FunctionHeader.Written.isSpelled_ahead {header : FunctionHeader} {body : List Stmt}
    (written : header.Written rules body definition last) :
    isSpelled definition.ahead "def" = true := by
  obtain ⟨_, _, _, ⟨_, _, _, keyword, -⟩, -⟩ := written
  exact keyword.isSpelled_ahead

theorem Cursor.Begins.isAfter [rules.exprs.Forward] {start : Cursor text}
    (isAfter : start.IsAfter definition) (begins : definition.Begins rules.exprs name list) :
    start.IsAfter list := by
  obtain ⟨_, _, _, keyword, named, types, opens⟩ := begins
  obtain ⟨_, tokenRead, -⟩ := expectKind_of_name named
  have behindKeyword := Forward.keeps _ start _ _ _ isAfter (expect_of_sign keyword)
  have behindName := Forward.keeps _ start _ _ _ behindKeyword tokenRead
  have atOpening := Forward.keeps _ start _ _ _ behindName types
  exact Forward.keeps _ start _ _ _ atOpening (expect_of_sign opens)

/-- What is read as a definition is written as one. -/
theorem written_of_definition {decorators : List String} {isAsync : Bool} {line : Nat}
    {statement : Stmt}
    (read : (do
      expect "def"
      functionRest rules decorators isAsync line : Reader Stmt) text definition =
        .ok (statement, last)) :
    ∃ header body, statement = .function header body ∧
      header.Written rules body definition last := by
  obtain ⟨_, atName, keyword, read⟩ := bind_ok read
  obtain ⟨name, behindName, named, read⟩ := bind_ok read
  obtain ⟨_, atOpening, types, read⟩ := bind_ok read
  obtain ⟨_, list, opening, read⟩ := bind_ok read
  obtain ⟨items, behindList, parameters, read⟩ := bind_ok read
  have begins : definition.Begins rules.exprs name.text list :=
    ⟨atName, behindName, atOpening, sign_of_expect keyword, name_of_expectKind named, types,
      sign_of_expect opening⟩
  have rest {returns : Option Expr} {behindResult : Cursor text}
      (result : Behind "->" rules.exprs.typeExpr returns behindList behindResult)
      (read : (do
        let block ← suite rules
        return .function ⟨name.text, items, returns, decorators, isAsync, line, block.2⟩ block.1 :
          Reader Stmt) text behindResult = .ok (statement, last)) :
      ∃ header body, statement = .function header body ∧
        header.Written rules body definition last := by
    obtain ⟨⟨body, endLine⟩, _, block, read⟩ := bind_ok read
    cases read
    exact ⟨_, body, rfl, list, behindList, behindResult, begins,
      written_of_parametersRest parameters, result, block⟩
  rcases accept_cases read with ⟨_, arrow, read⟩ | read
  · obtain ⟨returns, _, found, read⟩ := bind_ok read
    exact rest (.written arrow found) read
  · exact rest (.missing _) read

end

section

variable {text : String} {rules : StmtRules} {header : FunctionHeader} {body : List Stmt}
  {definition last : Cursor text.toList.toArray}

section

variable [rules.exprs.Forward] (isAfter : (Cursor.ofText text).IsAfter definition)
  (written : header.Written rules body definition last)

include isAfter written

/-- A definition is read as it is written. -/
theorem definition_of_written :
    (do
      expect "def"
      functionRest rules header.decorators header.isAsync header.line : Reader Stmt)
      text.toList.toArray definition = .ok (.function header body, last) := by
  obtain ⟨name, items, returns, decorators, isAsync, line, endLine⟩ := header
  obtain ⟨list, behindList, behindResult, begins, parameters, result, rest⟩ := written
  have listIsAfter := begins.isAfter isAfter
  obtain ⟨atName, behindName, opening, keyword, named, types, opens⟩ := begins
  obtain ⟨token, tokenRead, same⟩ := expectKind_of_name named
  dsimp only at same result rest
  subst same
  rw [bind_of_ok (expect_of_sign keyword), functionRest, bind_of_ok tokenRead, bind_of_ok types,
    bind_of_ok (expect_of_sign opens),
    bind_of_ok (parametersRest_of_written listIsAfter parameters)]
  cases result with
  | missing =>
    obtain ⟨_, _, colon, _⟩ := bind_ok rest
    have noArrow := isSpelled_of_ne (sign_of_expect colon).isSpelled_ahead
      (by decide : ":" ≠ "->")
    rw [accept_else noArrow]
    dsimp only [pure]
    rw [bind_of_ok rfl, bind_of_ok rest]
  | written arrow read =>
    rw [accept_then arrow, bind_of_ok read]
    dsimp only
    rw [bind_of_ok rfl, bind_of_ok rest]
    rfl

theorem decorated_of_written :
    decorated rules text.toList.toArray definition =
      .ok (.function { header with
        decorators := [], isAsync := false, line := definition.ahead.line } body, last) := by
  have isDef := written.isSpelled_ahead
  have noDecorator : accept "@" text.toList.toArray definition = .ok (false, definition) :=
    accept_of_other (isSpelled_of_ne isDef (by decide))
  have noDecorators : Reader.many (do
      let start := (← peek).start
      if ← accept "@" then return some (← decoratorRest rules start) else return none)
      text.toList.toArray definition = .ok ([], definition) := by
    refine collect_of_none _ ?_
    rw [bind_of_ok peek_eq, bind_of_ok noDecorator]
    rfl
  have plain : FunctionHeader.Written rules
      { header with decorators := [], isAsync := false, line := definition.ahead.line } body
      definition last := written
  rw [decorated, bind_of_ok noDecorators, bind_of_ok peek_eq,
    accept_else (isSpelled_of_ne isDef (by decide : "def" ≠ "class")),
    bind_of_ok (accept_of_other (isSpelled_of_ne isDef (by decide : "def" ≠ "async"))),
    definition_of_written isAfter plain]

end

end

/-! ### Whole files -/

/-- The rules for the expressions of a file. -/
def ExprRules.ofText (text : String) : ExprRules :=
  ExprRules.levels ((tokens text.toList).length + 1)

/-- The rules for the blocks of the outermost statements of a file. -/
def StmtRules.ofText (text : String) : StmtRules :=
  Nat.repeat StmtRules.above (tokens text.toList).length ⟨ExprRules.ofText text, refuse⟩

theorem StmtRules.exprs_ofText (text : String) :
    (StmtRules.ofText text).exprs = ExprRules.ofText text := by
  rw [ofText]
  induction (tokens text.toList).length with
  | zero => rfl
  | succ levels hypothesis => exact hypothesis

/-- A file is read where its first statements reach to its end. -/
theorem wholeFile_of_statement {text : Array Char} {rules : StmtRules} {start last : Cursor text}
    {statements : List Stmt} (read : rules.statement text start = .ok (statements, last))
    (notEmpty : start.ahead.kind ≠ .fileEnd) (ends : last.ahead.kind = .fileEnd) :
    wholeFile rules text start = .ok (statements, last) := by
  have first : (do
      if (← peek).kind == .fileEnd then return none
      else return some (← rules.statement) : Reader (Option (List Stmt))) text start =
        .ok (some statements, last) := by
    rw [bind_of_ok peek_eq, if_neg (beq_eq_false_iff_ne.2 notEmpty ▸ Bool.false_ne_true),
      bind_of_ok read]
    rfl
  have noMore : (do
      if (← peek).kind == .fileEnd then return none
      else return some (← rules.statement) : Reader (Option (List Stmt))) text last =
        .ok (none, last) := by
    rw [bind_of_ok peek_eq, ends]
    rfl
  have all := collect_succ first (collect_of_none (text.size - start.stop) noMore)
  rw [wholeFile, many]
  refine (bind_of_ok all).trans ?_
  rw [List.flatten_singleton]
  rfl

/-- A file that is a definition and nothing else is read as it is written. -/
theorem parse_of_written {text : String} {header : FunctionHeader} {body : List Stmt}
    {last : Cursor text.toList.toArray}
    (written : header.Written (StmtRules.ofText text) body (Cursor.ofText text) last)
    (ends : last.ahead.kind = .fileEnd) :
    parse text = .ok [.function { header with
      decorators := [], isAsync := false, line := (Cursor.ofText text).ahead.line } body] := by
  have forward : (StmtRules.ofText text).exprs.Forward := by
    rw [StmtRules.exprs_ofText]
    exact inferInstanceAs (ExprRules.levels _).Forward
  have isDef := written.isSpelled_ahead
  have read := decorated_of_written (.refl _) written
  generalize Stmt.function _ body = statement at read ⊢
  have statements : (StmtRules.ofText text).above.statement text.toList.toArray
      (Cursor.ofText text) = .ok ([statement], last) := by
    dsimp only [StmtRules.above]
    rw [statementAbove, bind_of_ok peek_eq, isDef, Bool.true_or, Bool.true_or, if_pos rfl,
      bind_of_ok read]
    rfl
  have whole : wholeFile (StmtRules.ofText text).above text.toList.toArray (Cursor.ofText text) =
      .ok ([statement], last) :=
    wholeFile_of_statement statements (kind_ne_of_isSpelled isDef rfl) ends
  -- The rules of the whole file are those one level above the rules of its blocks.
  unfold parse
  dsimp only
  split
  next statements after read =>
    cases whole.symm.trans read
    rfl
  next refusal read => cases whole.symm.trans read

end Declarations.Source
