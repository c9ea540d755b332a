/-
This file proves that the names in the imports of a source file are written there: every
origin and every imported name that is not a star is a piece of the text which starts
like a name. It follows the readers of statements, since only two of them make imports and
the others pass on those of their blocks.
-/

import Declarations.Outline.OfSource
import Declarations.Proofs.Source.Readers

namespace Declarations

open Source

/-- Whether an import names what it names as it is written in a text of at most `limit`
characters. Only a relative import may have no origin. -/
structure Import.IsWritten (limit : Nat) (entry : Import) : Prop where
  origin : entry.origin = "" ∨ Source.IsWritten limit entry.origin
  names : ∀ imported ∈ entry.names,
    imported.name = "*" ∨ Source.IsWritten limit imported.name

theorem Source.IsWritten.mono {limit more : Nat} {name : String}
    (written : Source.IsWritten limit name) (within : limit ≤ more) : Source.IsWritten more name :=
  ⟨Nat.le_trans written.length_le within, written.starts⟩

theorem Import.IsWritten.mono {limit more : Nat} {entry : Import} (written : entry.IsWritten limit)
    (within : limit ≤ more) : entry.IsWritten more where
  origin := written.origin.imp_right (·.mono within)
  names imported member := (written.names imported member).imp_right (·.mono within)

namespace Source

/-- Whether the imports of a statement are written in a text of at most `limit` characters. -/
def Stmt.IsWritten (limit : Nat) (statement : Stmt) : Prop :=
  ∀ entry ∈ importsOf statement, entry.IsWritten limit

/-- Whether the imports of all statements of a body are. -/
def IsWrittenBody (limit : Nat) (body : List Stmt) : Prop :=
  ∀ statement ∈ body, statement.IsWritten limit

variable {limit : Nat}

theorem isWrittenBody_flatten {bodies : List (List Stmt)}
    (written : ∀ body ∈ bodies, IsWrittenBody limit body) :
    IsWrittenBody limit bodies.flatten := by
  intro statement member
  obtain ⟨body, among, within⟩ := List.mem_flatten.mp member
  exact written body among statement within

theorem mem_importsOfBody {entry : Import} {body : List Stmt} :
    entry ∈ importsOfBody body ↔ ∃ statement ∈ body, entry ∈ importsOf statement := by
  induction body with
  | nil => simp [importsOfBody]
  | cons statement rest hypothesis => simp [importsOfBody, hypothesis]

theorem mem_importsOfBlocks {entry : Import} {blocks : List (List Stmt)} :
    entry ∈ importsOfBlocks blocks ↔ ∃ block ∈ blocks, entry ∈ importsOfBody block := by
  induction blocks with
  | nil => simp [importsOfBlocks]
  | cons block rest hypothesis => simp [importsOfBlocks, hypothesis]

theorem Stmt.isWritten_clauses {blocks : List (List Stmt)}
    (written : ∀ block ∈ blocks, IsWrittenBody limit block) :
    (Stmt.clauses blocks).IsWritten limit := by
  intro entry member
  rw [importsOf] at member
  obtain ⟨block, among, within⟩ := mem_importsOfBlocks.mp member
  obtain ⟨statement, inside, imports⟩ := mem_importsOfBody.mp within
  exact written block among statement inside entry imports

/-- A statement that imports nothing. -/
theorem Stmt.IsWritten.of_nil {statement : Stmt} (none : importsOf statement = []) :
    statement.IsWritten limit := by
  intro entry member
  rw [none] at member
  cases member

/-! ### Import statements -/

namespace Reader

variable {text : Array Char}

theorem gives_importedName :
    Gives text importedName fun imported => IsWritten text.size imported.name :=
  gives_dottedName.bindOf fun _ written =>
    .bind fun _ => .ite (.bind fun _ => .pure written) (.pure written)

theorem gives_importRest (line : Nat) :
    Gives text (importRest line) (Stmt.IsWritten text.size) := by
  refine (Gives.separated gives_importedName).bindOf fun (names, _) written => .pure ?_
  intro entry member
  rw [importsOf] at member
  obtain ⟨imported, among, rfl⟩ := List.mem_map.mp member
  refine ⟨.inr (written imported among), fun other inside => .inr ?_⟩
  rw [List.mem_singleton.mp inside]
  exact written imported among

theorem gives_importedNames :
    Gives text importedNames fun names =>
      ∀ imported ∈ names, imported.name = "*" ∨ IsWritten text.size imported.name := by
  have several {ends : Token → Bool} :
      Gives text (separated ends importedName) fun result =>
        ∀ imported ∈ result.1, imported.name = "*" ∨ IsWritten text.size imported.name :=
    (Gives.separated gives_importedName).weaken fun _ written imported member =>
      .inr (written imported member)
  refine .bind fun _ => .ite (.pure ?_) (.bind fun _ => .ite ?_ ?_)
  · intro imported member
    rw [List.mem_singleton.mp member]
    exact .inl rfl
  · exact several.bindOf fun _ written => .bind fun _ => .pure written
  · exact several.bindOf fun _ written => .pure written

theorem gives_relative (line : Nat) (dots : List Nat) {origin : String}
    (written : origin = "" ∨ IsWritten text.size origin) :
    Gives text (importFromRest.relative line dots origin) (Stmt.IsWritten text.size) := by
  refine .bind fun _ => gives_importedNames.bindOf fun names writtenNames =>
    .ite (.pure (.of_nil rfl)) (.pure ?_)
  intro entry member
  rw [importsOf] at member
  rw [List.mem_singleton.mp member]
  exact ⟨written, writtenNames⟩

theorem gives_importFromRest (line : Nat) :
    Gives text (importFromRest line) (Stmt.IsWritten text.size) := by
  refine .bind fun dots => .bind fun token => .ite ?_ (gives_relative line dots (.inl rfl))
  exact gives_dottedName.bindOf fun origin written => gives_relative line dots (.inr written)

/-! ### Other simple statements -/

theorem isWritten_simpleStatement (exprs : ExprRules) :
    Gives text (simpleStatement exprs) (Stmt.IsWritten text.size) := by
  refine gives_simpleStatement exprs gives_importRest gives_importFromRest fun statement plain => ?_
  cases statement <;> first | exact .of_nil rfl | cases plain

theorem gives_simpleLine (exprs : ExprRules) :
    Gives text (simpleLine exprs) (IsWrittenBody text.size) := by
  refine (isWritten_simpleStatement exprs).bindOf fun first written => ?_
  have others : Gives text (Reader.many do
      if ← accept ";" then
        if (← peek).kind == .lineEnd then return some none
        return some (some (← simpleStatement exprs))
      else return none) fun values =>
        ∀ found ∈ values, ∀ statement ∈ found, statement.IsWritten text.size := by
    refine .many (.bind fun _ => .ite (.bind fun _ => .ite (.pure ?_) ?_) .missing)
    · rintro _ ⟨⟩ _ ⟨⟩
    · refine (isWritten_simpleStatement exprs).bindOf fun statement holds => .pure ?_
      rintro _ ⟨⟩ _ ⟨⟩
      exact holds
  refine others.bindOf fun values holds => .bind fun _ => .pure ?_
  refine List.forall_mem_cons.mpr ⟨written, fun statement member => ?_⟩
  obtain ⟨found, among, same⟩ := List.mem_filterMap.mp member
  exact holds found among statement same

/-! ### Compound statements -/

-- The statements one nesting level below import what is written in the text.
variable {rules : StmtRules} (inner : Gives text rules.statement (IsWrittenBody text.size))

include inner

theorem gives_suite : Gives text (suite rules) fun result => IsWrittenBody text.size result.1 := by
  refine .bind fun _ => .bind fun _ => .ite ?_ (.bind fun _ => .ite ?_ ?_)
  · have bodies : Gives text (Reader.many do
        if (← peek).kind == .outdent then return none else return some (← rules.statement))
        fun bodies => ∀ body ∈ bodies, IsWrittenBody text.size body :=
      .many (.bind fun _ => .ite .missing inner.found)
    exact .bind fun _ => bodies.bindOf fun _ written => .bind fun _ => .bind fun _ =>
      .pure (isWrittenBody_flatten written)
  · exact .bind fun _ => .bind fun _ => .pure fun _ member => nomatch member
  · exact (gives_simpleLine rules.exprs).bindOf fun _ written => .bind fun _ => .pure written

theorem gives_block : Gives text (block rules) (IsWrittenBody text.size) :=
  (gives_suite inner).bindOf fun _ written => .pure written

theorem gives_optionalClause (keyword : String) :
    Gives text (optionalClause rules keyword) fun blocks =>
      ∀ block ∈ blocks, IsWrittenBody text.size block :=
  .bind fun _ => .ite
    ((gives_block inner).bindOf fun _ written =>
      .pure fun _ member => List.mem_singleton.mp member ▸ written)
    (.pure fun _ member => nomatch member)

theorem gives_ifRest : Gives text (ifRest rules) (Stmt.IsWritten text.size) := by
  refine .bind fun _ => (gives_block inner).bindOf fun first written => ?_
  have others : Gives text (Reader.many do
      if ← accept "elif" then
        let _ ← rules.exprs.expression
        return some (← block rules)
      else return none) fun blocks => ∀ block ∈ blocks, IsWrittenBody text.size block :=
    .many (.bind fun _ => .ite (.bind fun _ => (gives_block inner).found) .missing)
  refine others.bindOf fun blocks holds =>
    (gives_optionalClause inner "else").bindOf fun last ends => .pure ?_
  refine Stmt.isWritten_clauses ?_
  rw [List.cons_append, List.forall_mem_cons, List.forall_mem_append]
  exact ⟨written, holds, ends⟩

theorem gives_tryRest : Gives text (tryRest rules) (Stmt.IsWritten text.size) := by
  refine (gives_block inner).bindOf fun first written => ?_
  have handlers : Gives text (Reader.many do
      if ← accept "except" then
        let _ ← accept "*"
        if !(← isNext ":") then
          let _ ← rules.exprs.expression
          if ← acceptAny ["as", ","] then
            let _ ← rules.exprs.expression
        return some (← block rules)
      else return none) fun blocks => ∀ block ∈ blocks, IsWrittenBody text.size block := by
    have body := (gives_block inner).found
    refine .many (.bind fun _ =>
      .ite (.bind fun _ => .bind fun _ => .ite (.bind fun _ => ?_) body) .missing)
    exact .bind fun _ => .ite (.bind fun _ => body) body
  refine handlers.bindOf fun blocks holds => .ite ?_ ?_
  · refine .bind fun _ => (gives_block inner).bindOf fun last ends => .pure ?_
    refine Stmt.isWritten_clauses ?_
    rw [List.forall_mem_append, List.forall_mem_singleton, List.forall_mem_singleton]
    exact ⟨written, ends⟩
  · refine (gives_optionalClause inner "else").bindOf fun otherwise holdsElse =>
      (gives_optionalClause inner "finally").bindOf fun last ends => .pure ?_
    refine Stmt.isWritten_clauses ?_
    rw [List.forall_mem_append, List.cons_append, List.forall_mem_cons, List.forall_mem_append]
    exact ⟨⟨written, holds, holdsElse⟩, ends⟩

theorem gives_withRest : Gives text (withRest rules) (Stmt.IsWritten text.size) := by
  refine .bind fun _ => (gives_block inner).bindOf fun body written => .pure ?_
  refine Stmt.isWritten_clauses fun block member => ?_
  rw [List.mem_singleton.mp member]
  exact written

omit inner

/-- A definition imports nothing. -/
theorem gives_decorated : Gives text (decorated rules) (Stmt.IsWritten text.size) := by
  have function (decorators isAsync line) :
      Gives text (functionRest rules decorators isAsync line) (Stmt.IsWritten text.size) := by
    exact .bind fun _ => .bind fun _ => .bind fun _ => .bind fun _ => .bind fun _ =>
      .ite (.bind fun _ => .bind fun _ => .bind fun _ => .pure (.of_nil rfl))
        (.bind fun _ => .bind fun _ => .pure (.of_nil rfl))
  have classDef (decorators line) :
      Gives text (classRest rules decorators line) (Stmt.IsWritten text.size) := by
    exact .bind fun _ => .bind fun _ => .bind fun _ =>
      .ite (.bind fun _ => .bind fun _ => .pure (.of_nil rfl))
        (.bind fun _ => .bind fun _ => .pure (.of_nil rfl))
  exact .bind fun decorators => .bind fun token => .bind fun _ =>
    .ite (classDef _ _) (.bind fun _ => .bind fun _ => function _ _ _)

/-- A loop does not pass on what is imported in it. -/
theorem gives_forRest : Gives text (forRest rules) (Stmt.IsWritten text.size) :=
  .bind fun _ => .bind fun _ => .bind fun _ => .bind fun _ => .bind fun _ => .pure (.of_nil rfl)

theorem gives_whileRest : Gives text (whileRest rules) (Stmt.IsWritten text.size) :=
  .bind fun _ => .bind fun _ => .bind fun _ => .pure (.of_nil rfl)

theorem gives_matchStatement : Gives text (matchStatement rules) (Stmt.IsWritten text.size) := by
  refine .bind fun first => .unless ?_
  refine .bind fun _ => .bind fun _ => .bind fun _ => .bind fun _ => .bind fun cases => .unless ?_
  exact .bind fun _ => .pure (.of_nil rfl)

include inner

theorem gives_asyncStatement : Gives text (asyncStatement rules) (Stmt.IsWritten text.size) := by
  refine .bind fun second => .ite gives_decorated (.ite ?_ (.ite ?_ .refuse))
  · exact .bind fun _ => .bind fun _ => gives_forRest
  · exact .bind fun _ => .bind fun _ => gives_withRest inner

theorem gives_statementAbove : Gives text (statementAbove rules) (IsWrittenBody text.size) := by
  have alone {reader : Reader Stmt} (gives : Gives text reader (Stmt.IsWritten text.size)) :
      Gives text (do return [← reader]) (IsWrittenBody text.size) :=
    gives.bindOf fun _ written => .pure (List.forall_mem_singleton.mpr written)
  have line : Gives text (simpleLine rules.exprs) (IsWrittenBody text.size) :=
    gives_simpleLine rules.exprs
  refine .bind fun token => .ite (alone gives_decorated)
    (.ite (alone (gives_asyncStatement inner)) ?_)
  refine .bind fun _ => .ite (alone (gives_ifRest inner)) ?_
  refine .bind fun _ => .ite (alone gives_whileRest) ?_
  refine .bind fun _ => .ite (alone gives_forRest) ?_
  refine .bind fun _ => .ite (alone (gives_tryRest inner)) ?_
  refine .bind fun _ => .ite (alone (gives_withRest inner)) (.ite ?_ line)
  exact .orElse (alone gives_matchStatement) line

omit inner

/-! ### Whole files -/

theorem gives_levels (levels : Nat) :
    Gives text (StmtRules.levels levels).statement (IsWrittenBody text.size) := by
  unfold StmtRules.levels
  generalize ExprRules.levels levels = exprs
  induction levels with
  | zero => exact .refuse
  | succ levels inductionHypothesis => exact gives_statementAbove inductionHypothesis

theorem gives_wholeFile (inner : Gives text rules.statement (IsWrittenBody text.size)) :
    Gives text (wholeFile rules) (IsWrittenBody text.size) := by
  have bodies : Gives text (Reader.many do
      if (← peek).kind == .fileEnd then return none else return some (← rules.statement))
      fun bodies => ∀ body ∈ bodies, IsWrittenBody text.size body :=
    .many (.bind fun _ => .ite .missing inner.found)
  exact bodies.bindOf fun _ written => .pure (isWrittenBody_flatten written)

end Reader

theorem isWrittenBody_of_parse {text : String} {body : List Stmt} (parsed : parse text = .ok body) :
    IsWrittenBody text.length body := by
  unfold parse at parsed
  dsimp only at parsed
  split at parsed
  next statements after read =>
    cases parsed
    have written := Reader.gives_wholeFile (Reader.gives_levels _) _ _ _ read
    rwa [List.size_toArray, String.length_toList] at written
  next => cases parsed

end Source

/-- The imports of a file name what they name as the file does. -/
theorem Outline.isWritten_of_read {text : String} {outline : Outline}
    (read : Outline.read text = .ok outline) :
    ∀ entry ∈ outline.imports, entry.IsWritten text.length := by
  intro entry member
  unfold Outline.read at read
  cases parsed : Source.parse text with
  | error line =>
    rw [parsed] at read
    cases read
  | ok body =>
    rw [parsed] at read
    cases read
    obtain ⟨statement, among, imports⟩ := Source.mem_importsOfBody.mp member
    exact Source.isWrittenBody_of_parse parsed statement among entry imports

end Declarations
