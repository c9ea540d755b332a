/-
This file proves that the functions that a source file declares are written in it, one after the
other: each has its definition behind the parameter list of the one before, and the parameters in
its header are those that are written there. It follows the readers of statements. Each of them goes
on from the definitions in front of it to those of what it reads.
-/

import Declarations.Proofs.Source.Definitions

namespace Declarations.Source

open Reader

/-! ### Headers -/

mutual

/-- The headers of the functions that a statement declares. -/
def headersOf : Stmt → List FunctionHeader
  | .function header _ => [header]
  | .classDef _ body => headersOfBody body
  | .clauses blocks => headersOfBlocks blocks
  | .importing _ _ | .importingFrom _ _ _ _ | .expression _ | .assignment _ _ _ _
  | .typeAlias _ _ | .loop _ | .other => []

/-- The headers of the functions that a body declares. -/
def headersOfBody : List Stmt → List FunctionHeader
  | [] => []
  | statement :: rest => headersOf statement ++ headersOfBody rest

/-- The headers of the functions that clauses declare. -/
def headersOfBlocks : List (List Stmt) → List FunctionHeader
  | [] => []
  | block :: rest => headersOfBody block ++ headersOfBlocks rest

end

/-- Whether the definitions of functions stand between two places in the order of their headers,
each behind the parameter list of the one before. -/
inductive HeadersStand {text : Array Char} (exprs : ExprRules) :
    List FunctionHeader → Cursor text → Cursor text → Prop where
  | none {start last : Cursor text} : start.IsAfter last → HeadersStand exprs [] start last
  | more {header : FunctionHeader} {others : List FunctionHeader}
      {start definition list behind last : Cursor text} :
      start.IsAfter definition → definition.Begins exprs header.name list →
        ParametersWritten exprs header.parameters list behind →
          HeadersStand exprs others behind last → HeadersStand exprs (header :: others) start last

section

variable {text : Array Char} {exprs : ExprRules} {start place last : Cursor text}
  {headers : List FunctionHeader}

/-- Definitions stand between places further apart as well. -/
theorem HeadersStand.forward (stand : HeadersStand exprs headers start place)
    (isAfter : place.IsAfter last) : HeadersStand exprs headers start last := by
  induction stand with
  | none before => exact .none (before.trans isAfter)
  | more before begins written _ hypothesis =>
    exact .more before begins written (hypothesis isAfter)

/-- A definition stands behind those in front of it. -/
theorem HeadersStand.concat {rules : StmtRules} [rules.Forward] {header : FunctionHeader}
    {body : List Stmt} (stand : HeadersStand rules.exprs headers start place)
    (written : header.Written rules body place last) :
    HeadersStand rules.exprs (headers ++ [header]) start last := by
  obtain ⟨list, behindList, behindResult, begins, parameters, result, rest⟩ := written
  have isAfter : behindList.IsAfter last := result.isAfter.trans (isAfter_of_read rest)
  induction stand with
  | none before => exact .more before begins parameters (.none isAfter)
  | more before itsStart itsList _ hypothesis =>
    exact .more before itsStart itsList (hypothesis begins)

end

theorem headersOfBody_eq_flatMap (body : List Stmt) :
    headersOfBody body = body.flatMap headersOf := by
  induction body with
  | nil => rfl
  | cons statement rest hypothesis => rw [headersOfBody, hypothesis, List.flatMap_cons]

theorem headersOfBody_flatten (bodies : List (List Stmt)) :
    headersOfBody bodies.flatten = bodies.flatMap headersOfBody := by
  induction bodies with
  | nil => rfl
  | cons body rest hypothesis =>
    rw [List.flatten_cons, headersOfBody_eq_flatMap, List.flatMap_append,
      ← headersOfBody_eq_flatMap, ← headersOfBody_eq_flatMap, hypothesis, List.flatMap_cons]

theorem headersOf_clauses (blocks : List (List Stmt)) :
    headersOf (.clauses blocks) = blocks.flatMap headersOfBody := by
  rw [headersOf]
  induction blocks with
  | nil => rfl
  | cons block rest hypothesis => rw [headersOfBlocks, hypothesis, List.flatMap_cons]

namespace Reader

/-! ### From definitions to definitions -/

section

variable {α β : Type} {text : Array Char} {exprs : ExprRules} {prior : List FunctionHeader}
  {headers : α → List FunctionHeader}

/-- Whether a reader that starts behind some definitions stops behind those which belong to what it
reads. -/
def Leads (text : Array Char) (exprs : ExprRules) (prior : List FunctionHeader) (reader : Reader α)
    (headers : α → List FunctionHeader) : Prop :=
  ∀ (start cursor : Cursor text) value after, HeadersStand exprs prior start cursor →
    reader text cursor = .ok (value, after) → HeadersStand exprs (headers value) start after

theorem Leads.pure {value : α} (same : headers value = prior) :
    Leads text exprs prior (Pure.pure value) headers := by
  intro start cursor found after stand read
  cases read
  exact same ▸ stand

/-- A reader that defines nothing stays behind the same definitions. -/
theorem Leads.of_gives {reader : Reader α} [forward : Forward reader]
    (gives : Gives text reader fun value => headers value = prior) :
    Leads text exprs prior reader headers := by
  intro start cursor value after stand read
  rw [gives cursor value after read]
  exact stand.forward (isAfter_of_read read)

theorem Leads.refuse : Leads text exprs prior Reader.refuse headers := by
  intro start cursor value after stand refused
  cases refused

theorem Leads.bindOf {first : Reader β} {second : β → Reader α}
    {between : β → List FunctionHeader} (early : Leads text exprs prior first between)
    (late : ∀ value, Leads text exprs (between value) (second value) headers) :
    Leads text exprs prior (first >>= second) headers := by
  intro start cursor value after stand same
  obtain ⟨found, middle, taken, read⟩ := bind_ok same
  exact late found _ _ _ _ (early _ _ _ _ stand taken) read

/-- What is read first defines nothing. -/
theorem Leads.bind {first : Reader β} [Forward first] {second : β → Reader α}
    (late : ∀ value, Leads text exprs prior (second value) headers) :
    Leads text exprs prior (first >>= second) headers :=
  Leads.bindOf (.of_gives fun _ _ _ _ => rfl) late

theorem Leads.ite {condition : Prop} [Decidable condition] {first second : Reader α}
    (ofFirst : Leads text exprs prior first headers)
    (ofSecond : Leads text exprs prior second headers) :
    Leads text exprs prior (if condition then first else second) headers := by
  split
  · exact ofFirst
  · exact ofSecond

theorem Leads.orElse {first second : Reader α} (ofFirst : Leads text exprs prior first headers)
    (ofSecond : Leads text exprs prior second headers) :
    Leads text exprs prior (orElse first second) headers := by
  intro start cursor value after stand same
  unfold Reader.orElse at same
  split at same
  next result taken =>
    cases same
    exact ofFirst _ _ _ _ stand taken
  next =>
    split at same
    next result taken =>
      cases same
      exact ofSecond _ _ _ _ stand taken
    next => cases same

/-- Whether a reader leads to the definitions in what it reads, wherever it starts. -/
def Adds (text : Array Char) (exprs : ExprRules) (reader : Reader α)
    (headers : α → List FunctionHeader) : Prop :=
  ∀ prior, Leads text exprs prior reader fun value => prior ++ headers value

/-- What is read is found. -/
theorem Adds.found {reader : Reader α} (adds : Adds text exprs reader headers) :
    Adds text exprs (do return some (← reader)) fun found => found.elim [] headers :=
  fun prior => (adds prior).bindOf fun _ => .pure rfl

/-- Nothing is found. -/
theorem Leads.missing :
    Leads text exprs prior (Pure.pure none) fun found => prior ++ found.elim [] headers :=
  .pure (List.append_nil prior)

theorem Adds.collect {one : Reader (Option α)}
    (adds : Adds text exprs one fun found => found.elim [] headers) :
    ∀ limit, Adds text exprs (collect limit one) fun values => values.flatMap headers
  | 0, prior => .pure (List.append_nil prior)
  | limit + 1, prior => by
    refine (adds prior).bindOf fun found => ?_
    cases found with
    | none => exact .pure rfl
    | some value =>
      refine (Adds.collect adds limit _).bindOf fun others => .pure ?_
      exact (List.append_assoc _ _ _).symm

theorem Adds.many {one : Reader (Option α)}
    (adds : Adds text exprs one fun found => found.elim [] headers) :
    Adds text exprs (many one) fun values => values.flatMap headers :=
  fun prior => .bind fun left => adds.collect (left + 1) prior

end

/-! ### Simple statements -/

section

variable {text : Array Char}

/-- Whether a statement declares no function. -/
abbrev DeclaresNone (statement : Stmt) : Prop :=
  headersOf statement = []

theorem none_relative (line : Nat) (dots : List Nat) (origin : String) :
    Gives text (importFromRest.relative line dots origin) DeclaresNone :=
  .bind fun _ => .bind fun _ => .ite (.pure rfl) (.pure rfl)

theorem none_importFromRest (line : Nat) : Gives text (importFromRest line) DeclaresNone :=
  .bind fun _ => .bind fun _ => .ite (.bind fun _ => none_relative _ _ _) (none_relative _ _ _)

theorem none_simpleStatement (exprs : ExprRules) :
    Gives text (simpleStatement exprs) DeclaresNone := by
  refine gives_simpleStatement exprs (fun _ => .bind fun _ => .pure rfl) none_importFromRest
    fun statement plain => ?_
  cases statement <;> first | rfl | cases plain

theorem none_simpleLine (exprs : ExprRules) :
    Gives text (simpleLine exprs) fun body => ∀ statement ∈ body, DeclaresNone statement := by
  refine (none_simpleStatement exprs).bindOf fun first declaresNone => ?_
  have others : Gives text (Reader.many do
      if ← accept ";" then
        if (← peek).kind == .lineEnd then return some none
        return some (some (← simpleStatement exprs))
      else return none) fun values =>
        ∀ found ∈ values, ∀ statement ∈ found, DeclaresNone statement := by
    refine .many (.bind fun _ => .ite (.bind fun _ => .ite (.pure ?_) ?_) .missing)
    · rintro _ ⟨⟩ _ ⟨⟩
    · refine (none_simpleStatement exprs).bindOf fun statement holds => .pure ?_
      rintro _ ⟨⟩ _ ⟨⟩
      exact holds
  refine others.bindOf fun values holds => .bind fun _ => .pure ?_
  refine List.forall_mem_cons.2 ⟨declaresNone, fun statement member => ?_⟩
  obtain ⟨found, among, same⟩ := List.mem_filterMap.1 member
  exact holds found among statement same

end

/-! ### Compound statements -/

section

variable {text : Array Char} {rules : StmtRules}

/-- A statement that declares no function leads to no other definitions. -/
theorem Adds.of_none {exprs : ExprRules} {reader : Reader Stmt} [Forward reader]
    (gives : Gives text reader DeclaresNone) : Adds text exprs reader headersOf := by
  refine fun prior => .of_gives fun cursor statement after read => ?_
  dsimp only
  rw [gives cursor statement after read, List.append_nil]

theorem adds_simpleLine (exprs : ExprRules) [exprs.Forward] :
    Adds text exprs (simpleLine exprs) headersOfBody := by
  refine fun prior => .of_gives fun cursor body after read => ?_
  have declareNone := none_simpleLine exprs cursor body after read
  dsimp only
  rw [headersOfBody_eq_flatMap, List.flatMap_eq_nil_iff.2 declareNone, List.append_nil]

theorem none_loops :
    Gives text (forRest rules) DeclaresNone ∧ Gives text (whileRest rules) DeclaresNone ∧
      Gives text (matchStatement rules) DeclaresNone := by
  refine ⟨.bind fun _ => .bind fun _ => .bind fun _ => .bind fun _ => .bind fun _ => .pure rfl,
    .bind fun _ => .bind fun _ => .bind fun _ => .pure rfl, ?_⟩
  refine .bind fun first => .unless ?_
  refine .bind fun _ => .bind fun _ => .bind fun _ => .bind fun _ => .bind fun cases => .unless ?_
  exact .bind fun _ => .pure rfl

-- The statements one nesting level below lead to the definitions in them.
variable [rules.Forward] (inner : Adds text rules.exprs rules.statement headersOfBody)

/-- A function leads to its definition. -/
theorem adds_function (decorators : List String) (isAsync : Bool) (line : Nat) :
    Adds text rules.exprs
      (do
        expect "def"
        functionRest rules decorators isAsync line)
      headersOf := by
  intro prior start cursor statement after stand read
  obtain ⟨header, body, rfl, written⟩ := written_of_definition read
  exact stand.concat written

include inner

theorem adds_suite :
    Adds text rules.exprs (suite rules) fun result => headersOfBody result.1 := by
  refine fun prior => .bind fun _ => .bind fun _ => .ite ?_ (.bind fun _ => .ite ?_ ?_)
  · have bodies : Adds text rules.exprs (Reader.many do
        if (← peek).kind == .outdent then return none else return some (← rules.statement))
        fun bodies => bodies.flatMap headersOfBody :=
      .many fun prior => .bind fun _ => .ite .missing (inner.found prior)
    exact .bind fun _ => (bodies prior).bindOf fun found => .bind fun _ => .bind fun _ =>
      .pure (congrArg (prior ++ ·) (headersOfBody_flatten found))
  · exact .bind fun _ => .bind fun _ => .pure (List.append_nil prior)
  · exact (adds_simpleLine _ prior).bindOf fun _ => .bind fun _ => .pure rfl

theorem adds_block : Adds text rules.exprs (block rules) headersOfBody :=
  fun prior => (adds_suite inner prior).bindOf fun _ => .pure rfl

theorem adds_optionalClause (keyword : String) :
    Adds text rules.exprs (optionalClause rules keyword) fun blocks =>
      blocks.flatMap headersOfBody := by
  refine fun prior => .bind fun _ => .ite ?_ (.pure (List.append_nil prior))
  exact (adds_block inner prior).bindOf fun body =>
    .pure (congrArg (prior ++ ·) (List.flatMap_singleton _ body))

theorem adds_ifRest : Adds text rules.exprs (ifRest rules) headersOf := by
  intro prior
  refine .bind fun _ => (adds_block inner prior).bindOf fun first => ?_
  have others : Adds text rules.exprs (Reader.many do
      if ← accept "elif" then
        let _ ← rules.exprs.expression
        return some (← block rules)
      else return none) fun blocks => blocks.flatMap headersOfBody :=
    .many fun prior =>
      .bind fun _ => .ite (.bind fun _ => (adds_block inner).found prior) .missing
  refine (others _).bindOf fun blocks =>
    (adds_optionalClause inner "else" _).bindOf fun last => .pure ?_
  simp only [headersOf_clauses, List.cons_append, List.flatMap_cons, List.flatMap_append,
    List.append_assoc]

theorem adds_tryRest : Adds text rules.exprs (tryRest rules) headersOf := by
  intro prior
  refine (adds_block inner prior).bindOf fun first => ?_
  have handlers : Adds text rules.exprs (Reader.many do
      if ← accept "except" then
        let _ ← accept "*"
        if !(← isNext ":") then
          let _ ← rules.exprs.expression
          if ← acceptAny ["as", ","] then
            let _ ← rules.exprs.expression
        return some (← block rules)
      else return none) fun blocks => blocks.flatMap headersOfBody := by
    refine .many fun prior => ?_
    have body := (adds_block inner).found prior
    refine .bind fun _ =>
      .ite (.bind fun _ => .bind fun _ => .ite (.bind fun _ => ?_) body) .missing
    exact .bind fun _ => .ite (.bind fun _ => body) body
  refine (handlers _).bindOf fun blocks => ?_
  split
  next noHandler =>
    rw [List.isEmpty_iff.1 noHandler]
    refine .bind fun _ => (adds_block inner _).bindOf fun last => .pure ?_
    simp only [headersOf_clauses, List.cons_append, List.flatMap_cons, List.flatMap_nil,
      List.append_nil, List.nil_append, List.append_assoc]
  next =>
    refine (adds_optionalClause inner "else" _).bindOf fun otherwise =>
      (adds_optionalClause inner "finally" _).bindOf fun last => .pure ?_
    simp only [headersOf_clauses, List.cons_append, List.flatMap_cons, List.flatMap_append,
      List.append_assoc]

theorem adds_withRest : Adds text rules.exprs (withRest rules) headersOf := by
  refine fun prior => .bind fun _ => (adds_block inner prior).bindOf fun body => .pure ?_
  exact congrArg (prior ++ ·) (List.append_nil _)

theorem adds_classRest (decorators : List String) (line : Nat) :
    Adds text rules.exprs (classRest rules decorators line) headersOf := by
  intro prior
  have body (header : Nat → ClassHeader) : Leads text rules.exprs prior (do
      let block ← suite rules
      return Stmt.classDef (header block.2) block.1)
      fun statement => prior ++ headersOf statement :=
    (adds_suite inner prior).bindOf fun _ => .pure rfl
  exact .bind fun _ => .bind fun _ => .bind fun _ => .ite (.bind fun _ => body _) (body _)

theorem adds_decorated : Adds text rules.exprs (decorated rules) headersOf :=
  fun prior => .bind fun _ => .bind fun _ => .bind fun _ =>
    .ite (adds_classRest inner _ _ prior) (.bind fun _ => adds_function _ _ _ prior)

theorem adds_asyncStatement : Adds text rules.exprs (asyncStatement rules) headersOf := by
  refine fun prior => .bind fun second =>
    .ite (adds_decorated inner prior) (.ite ?_ (.ite ?_ .refuse))
  · exact .bind fun _ => .bind fun _ => Adds.of_none none_loops.1 prior
  · exact .bind fun _ => .bind fun _ => adds_withRest inner prior

theorem adds_statementAbove : Adds text rules.exprs (statementAbove rules) headersOfBody := by
  intro prior
  have alone {reader : Reader Stmt} (adds : Adds text rules.exprs reader headersOf) :
      Leads text rules.exprs prior (do return [← reader]) fun body => prior ++ headersOfBody body :=
    (adds prior).bindOf fun _ => .pure (congrArg (prior ++ ·) (List.append_nil _))
  obtain ⟨noneFor, noneWhile, noneMatch⟩ := @none_loops text rules
  refine .bind fun token => .ite (alone (adds_decorated inner))
    (.ite (alone (adds_asyncStatement inner)) ?_)
  refine .bind fun _ => .ite (alone (adds_ifRest inner)) ?_
  refine .bind fun _ => .ite (alone (.of_none noneWhile)) ?_
  refine .bind fun _ => .ite (alone (.of_none noneFor)) ?_
  refine .bind fun _ => .ite (alone (adds_tryRest inner)) ?_
  refine .bind fun _ => .ite (alone (adds_withRest inner)) (.ite ?_ (adds_simpleLine _ prior))
  exact .orElse (alone (.of_none noneMatch)) (adds_simpleLine _ prior)

omit inner [rules.Forward]

/-! ### Whole files -/

theorem adds_wholeFile (inner : Adds text rules.exprs rules.statement headersOfBody) :
    Adds text rules.exprs (wholeFile rules) headersOfBody := by
  intro prior
  have bodies : Adds text rules.exprs (Reader.many do
      if (← peek).kind == .fileEnd then return none else return some (← rules.statement))
      fun bodies => bodies.flatMap headersOfBody :=
    .many fun prior => .bind fun _ => .ite .missing (inner.found prior)
  exact (bodies prior).bindOf fun found =>
    .pure (congrArg (prior ++ ·) (headersOfBody_flatten found))

theorem adds_levels (levels : Nat) :
    (StmtRules.levels levels).Forward ∧
      (StmtRules.levels levels).exprs = ExprRules.levels levels ∧
        Adds text (ExprRules.levels levels) (StmtRules.levels levels).statement headersOfBody := by
  have forward : (ExprRules.levels levels).Forward := inferInstance
  unfold StmtRules.levels
  generalize ExprRules.levels levels = exprs at forward ⊢
  induction levels with
  | zero =>
    exact ⟨⟨forward, inferInstanceAs (Forward refuse)⟩, rfl, fun _ => Leads.refuse⟩
  | succ levels hypothesis =>
    obtain ⟨below, same, adds⟩ := hypothesis
    rw [Nat.repeat]
    generalize Nat.repeat StmtRules.above levels ⟨exprs, refuse⟩ = rules at below same adds ⊢
    subst same
    exact ⟨inferInstance, rfl, adds_statementAbove adds⟩

end

end Reader

/-- The functions that a source file declares are defined in it one after the other. -/
theorem headersStand_of_parse {text : String} {body : List Stmt} (parsed : parse text = .ok body) :
    ∃ last, HeadersStand (ExprRules.ofText text) (headersOfBody body) (Cursor.ofText text)
      last := by
  unfold parse at parsed
  dsimp only at parsed
  split at parsed
  next statements last read =>
    cases parsed
    obtain ⟨forward, same, adds⟩ := adds_levels ((tokens text.toList).length + 1)
    rw [ExprRules.ofText, ← same]
    rw [← same] at adds
    exact ⟨last, adds_wholeFile adds [] _ _ _ _ (.none (.refl _)) read⟩
  next => cases parsed

end Declarations.Source
