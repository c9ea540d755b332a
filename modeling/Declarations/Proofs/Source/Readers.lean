/-
This file proves what readers give and what they keep. A reader gives values of a kind
when every value it reads is of that kind, and it keeps a property of the place where
reading stands when the place after it has the property too. A dotted name is the text
from one name to the end of another, so it starts like a name.
-/

import Declarations.Source.Statements

namespace Declarations.Source

namespace Reader

variable {α β : Type} {text : Array Char}

/-- A reader of two steps took both. -/
theorem bind_ok {first : Reader α} {second : α → Reader β} {cursor : Cursor text}
    {result : β × Cursor text} (read : (first >>= second) text cursor = .ok result) :
    ∃ value after, first text cursor = .ok (value, after) ∧
      second value text after = .ok result := by
  dsimp only [bind] at read
  split at read
  next value after taken => exact ⟨value, after, taken, read⟩
  next => cases read

/-- Whether every value that a reader reads in a text has a property. -/
def Gives (text : Array Char) (reader : Reader α) (post : α → Prop) : Prop :=
  ∀ cursor value after, reader text cursor = .ok (value, after) → post value

/-- Whether a property of the place where reading stands outlasts a reader. -/
def Keeps (invariant : Cursor text → Prop) (reader : Reader α) : Prop :=
  ∀ cursor value after, invariant cursor → reader text cursor = .ok (value, after) →
    invariant after

/-! ### What readers give -/

variable {post : α → Prop}

theorem Gives.pure {value : α} (holds : post value) : Gives text (pure value) post := by
  intro cursor found after same
  cases same
  exact holds

theorem Gives.refuse : Gives text refuse post :=
  fun _ _ _ refused => nomatch refused

/-- What was read before does not matter. -/
theorem Gives.bind {first : Reader β} {second : β → Reader α}
    (gives : ∀ value, Gives text (second value) post) : Gives text (first >>= second) post := by
  intro cursor value after same
  obtain ⟨early, between, -, read⟩ := bind_ok same
  exact gives early _ _ _ read

/-- What was read before has a property. -/
theorem Gives.bindOf {first : Reader β} {second : β → Reader α} {between : β → Prop}
    (early : Gives text first between)
    (gives : ∀ value, between value → Gives text (second value) post) :
    Gives text (first >>= second) post := by
  intro cursor value after same
  obtain ⟨found, middle, taken, read⟩ := bind_ok same
  exact gives found (early _ _ _ taken) _ _ _ read

theorem Gives.ite {condition : Prop} [Decidable condition] {first second : Reader α}
    (ofFirst : Gives text first post) (ofSecond : Gives text second post) :
    Gives text (if condition then first else second) post := by
  split
  · exact ofFirst
  · exact ofSecond

/-- What is read under a condition is read after it. -/
theorem Gives.unless {condition : Prop} [Decidable condition] {rest : Unit → Reader α}
    (gives : Gives text (rest ()) post) :
    Gives text (if condition then Reader.refuse >>= rest else rest ()) post :=
  .ite (.bind fun _ => gives) gives

theorem Gives.orElse {first second : Reader α} (ofFirst : Gives text first post)
    (ofSecond : Gives text second post) : Gives text (orElse first second) post := by
  intro cursor value after same
  unfold Reader.orElse at same
  split at same
  next result taken =>
    cases same
    exact ofFirst _ _ _ taken
  next =>
    split at same
    next result taken =>
      cases same
      exact ofSecond _ _ _ taken
    next => cases same

theorem Gives.weaken {weak : α → Prop} {reader : Reader α} (gives : Gives text reader post)
    (implies : ∀ value, post value → weak value) : Gives text reader weak :=
  fun cursor value after read => implies value (gives cursor value after read)

/-- What is read is found. -/
theorem Gives.found {reader : Reader α} (gives : Gives text reader post) :
    Gives text (do return some (← reader)) fun found => ∀ value ∈ found, post value := by
  refine gives.bindOf fun value holds => .pure ?_
  rintro _ ⟨⟩
  exact holds

/-- Nothing is found. -/
theorem Gives.missing : Gives text (Pure.pure none) fun found => ∀ value ∈ found, post value :=
  .pure fun _ member => nomatch member

theorem Gives.collect {one : Reader (Option α)}
    (gives : Gives text one fun found => ∀ value ∈ found, post value) :
    ∀ limit, Gives text (collect limit one) fun values => ∀ value ∈ values, post value
  | 0 => .pure fun _ member => nomatch member
  | limit + 1 => by
    refine gives.bindOf fun found holds => ?_
    cases found with
    | none => exact .pure fun _ member => nomatch member
    | some value =>
      refine (Gives.collect gives limit).bindOf fun others rest => ?_
      exact .pure (List.forall_mem_cons.mpr ⟨holds value rfl, rest⟩)

theorem Gives.many {one : Reader (Option α)}
    (gives : Gives text one fun found => ∀ value ∈ found, post value) :
    Gives text (many one) fun values => ∀ value ∈ values, post value :=
  .bind fun left => .collect gives (left + 1)

theorem Gives.separated {ends : Token → Bool} {one : Reader α} (gives : Gives text one post) :
    Gives text (separated ends one) fun result => ∀ value ∈ result.1, post value := by
  refine gives.bindOf fun first holds => ?_
  have others : Gives text (Reader.many do
      if ← isNext "," then
        let _ ← next
        if ends (← peek) then return some none else return some (some (← one))
      else return none) fun values =>
        ∀ found ∈ values, ∀ value ∈ found, post value := by
    refine .many (.bind fun _ => .ite (.bind fun _ => .bind fun _ => .ite (.pure ?_) ?_) .missing)
    · rintro _ ⟨⟩ value ⟨⟩
    · refine gives.bindOf fun value holds => .pure ?_
      rintro _ ⟨⟩ _ ⟨⟩
      exact holds
  refine others.bindOf fun values holdsAll => .pure ?_
  refine List.forall_mem_cons.mpr ⟨holds, fun value member => ?_⟩
  obtain ⟨found, among, same⟩ := List.mem_filterMap.mp member
  exact holdsAll found among value same

/-! ### What readers keep -/

variable {invariant : Cursor text → Prop}

theorem Keeps.pure (value : α) : Keeps invariant (Pure.pure value : Reader α) := by
  intro cursor found after holds same
  cases same
  exact holds

theorem Keeps.bind {first : Reader β} {second : β → Reader α} (early : Keeps invariant first)
    (late : ∀ value, Keeps invariant (second value)) : Keeps invariant (first >>= second) := by
  intro cursor value after holds same
  obtain ⟨found, middle, taken, read⟩ := bind_ok same
  exact late found _ _ _ (early _ _ _ holds taken) read

theorem Keeps.ite {condition : Prop} [Decidable condition] {first second : Reader α}
    (ofFirst : Keeps invariant first) (ofSecond : Keeps invariant second) :
    Keeps invariant (if condition then first else second) := by
  split
  · exact ofFirst
  · exact ofSecond

theorem Keeps.collect {one : Reader (Option α)} (keeps : Keeps invariant one) :
    ∀ limit, Keeps invariant (collect limit one)
  | 0 => .pure []
  | limit + 1 => by
    refine keeps.bind fun found => ?_
    cases found with
    | none => exact .pure []
    | some value => exact (Keeps.collect keeps limit).bind fun others => .pure (value :: others)

theorem Keeps.many {one : Reader (Option α)} (keeps : Keeps invariant one) :
    Keeps invariant (many one) := by
  refine Keeps.bind ?_ fun left => .collect keeps (left + 1)
  intro cursor left after holds same
  cases same
  exact holds

end Reader

/-! ### Plain statements -/

/-- Whether a statement neither imports nor defines nor holds others. -/
def Stmt.IsPlain : Stmt → Prop
  | .expression _ | .assignment _ _ _ _ | .typeAlias _ _ | .other => True
  | _ => False

section

variable {text : Array Char} (exprs : ExprRules)

open Reader (Gives)

theorem plain_expressionStatement : Gives text (expressionStatement exprs) Stmt.IsPlain := by
  refine .bind fun first => .bind fun _ => .ite (.bind fun _ => .pure trivial) ?_
  refine .bind fun (items, hasComma) => .bind fun _ => .ite ?declared (.bind fun _ =>
    .ite ?assigned (.bind fun _ => .ite ?augmented ?plain))
  case declared =>
    split
    · refine .unless (.bind fun _ => .bind fun _ => .bind fun _ => .ite ?_ (.pure trivial))
      exact .bind fun _ => .pure trivial
    · exact .refuse
  case assigned =>
    refine .unless (.bind fun _ => .bind fun _ => ?_)
    split <;> exact .pure trivial
  case augmented => exact .unless (.bind fun _ => .pure trivial)
  case plain => split <;> exact .pure trivial

theorem plain_typeAlias : Gives text (typeAlias exprs) Stmt.IsPlain := by
  refine .bind fun first => .unless ?_
  refine .bind fun _ => .bind fun _ => .bind fun _ => .bind fun _ => .bind fun _ =>
    .bind fun _ => .bind fun _ => .bind fun _ => .unless ?_
  exact .pure trivial

theorem plain_wordStatement (rest : Reader Unit) :
    Gives text (wordStatement exprs rest) Stmt.IsPlain := by
  refine .orElse ?_ (.bind fun _ => .bind fun _ => .pure trivial)
  exact (plain_expressionStatement exprs).bindOf fun _ plain => .bind fun _ =>
    .ite (.pure plain) .refuse

/-- A simple statement imports, or it is a plain one. -/
theorem gives_simpleStatement {post : Stmt → Prop}
    (ofImport : ∀ line, Gives text (importRest line) post)
    (ofImportFrom : ∀ line, Gives text (importFromRest line) post)
    (ofPlain : ∀ statement : Stmt, statement.IsPlain → post statement) :
    Gives text (simpleStatement exprs) post := by
  have ofExpression : Gives text (expressionStatement exprs) post :=
    (plain_expressionStatement exprs).weaken ofPlain
  have ofWord (rest : Reader Unit) : Gives text (wordStatement exprs rest) post :=
    (plain_wordStatement exprs rest).weaken ofPlain
  refine .bind fun token => .ite ?_ (.ite ?_ (.ite (ofWord _) (.ite (ofWord _) ofExpression)))
  · refine .bind fun _ => .ite (ofImport token.line) ?_
    refine .bind fun _ => .ite (ofImportFrom token.line) ?_
    refine .bind fun _ => .ite ?_ ofExpression
    exact .bind fun _ => .pure (ofPlain .other trivial)
  · exact .orElse ((plain_typeAlias exprs).weaken ofPlain) ofExpression

end

/-! ### Dotted names -/

/-- Whether reading has passed an offset for good: no token with a text is left before it. -/
structure Cursor.IsPast {text : Array Char} (offset : Nat) (cursor : Cursor text) : Prop where
  le_stop : offset ≤ cursor.stop
  le_start : ∀ token ∈ cursor.rest, token.kind.isMark = false → offset ≤ token.start

/-- Whether a text is a name as it is written in a text of at most `limit` characters. -/
structure IsWritten (limit : Nat) (name : String) : Prop where
  length_le : name.length ≤ limit
  starts : ∃ first rest, name.toList = first :: rest ∧ startsName first = true

theorem isWritten_extract {text : Array Char} {start stop : Nat} {first : Char}
    (before : start < stop) (here : text.toList[start]? = some first)
    (starts : startsName first = true) :
    IsWritten text.size (String.ofList (text.extract start stop).toList) := by
  have piece : (text.extract start stop).toList =
      (text.toList.drop start).take (stop - start) := by
    rw [Array.toList_extract, List.extract_eq_take_drop]
  constructor
  · rw [String.length_ofList, piece, List.length_take, List.length_drop, Array.length_toList]
    omega
  · obtain ⟨within, same⟩ := List.getElem?_eq_some_iff.mp here
    refine ⟨first, ((text.toList.drop (start + 1)).take (stop - start - 1)), ?_, starts⟩
    rw [String.toList_ofList, piece, List.drop_eq_getElem_cons within, same,
      List.take_cons (Nat.sub_pos_of_lt before)]

namespace Reader

variable {text : Array Char} {offset : Nat}

/-- Taking a token that has a text leads no step back. -/
theorem isPast_next {cursor after : Cursor text} {token : Token} (past : cursor.IsPast offset)
    (hasText : (cursor.rest.headD (fileEnd cursor)).kind.isMark = false)
    (taken : next text cursor = .ok (token, after)) : after.IsPast offset := by
  obtain ⟨rest, stop, endLine, placed⟩ := cursor
  cases rest with
  | nil => cases hasText
  | cons first rest =>
    cases taken
    have start := past.le_start token List.mem_cons_self hasText
    have stands := placed.stands token List.mem_cons_self
    exact ⟨Nat.le_trans start stands.start_le_stop,
      fun token member => past.le_start token (List.mem_cons_of_mem _ member)⟩

/-- Words and signs have a text. -/
theorem isMark_of_isSpelled {token : Token} {spelling : String}
    (spelled : isSpelled token spelling = true) : token.kind.isMark = false := by
  unfold isSpelled at spelled
  cases kind : token.kind <;> simp_all [TokenKind.isMark]

theorem keeps_accept (spelling : String) :
    Keeps (fun cursor : Cursor text => cursor.IsPast offset) (accept spelling) := by
  intro cursor found after past same
  obtain ⟨spelled, between, asked, read⟩ := bind_ok same
  cases asked
  split at read
  next holds =>
    obtain ⟨token, beyond, taken, last⟩ := bind_ok read
    cases last
    exact isPast_next past (isMark_of_isSpelled holds) taken
  next =>
    cases read
    exact past

/-- A token of a kind was next and was taken. -/
theorem expectKind_ok {kind : TokenKind} {cursor after : Cursor text} {token : Token}
    (read : expectKind kind text cursor = .ok (token, after)) :
    (cursor.rest.headD (fileEnd cursor)).kind = kind ∧ next text cursor = .ok (token, after) := by
  obtain ⟨peeked, between, asked, rest⟩ := bind_ok read
  cases asked
  split at rest
  next same => exact ⟨eq_of_beq same, rest⟩
  next => cases rest

theorem keeps_expectKind {kind : TokenKind} (hasText : kind.isMark = false) :
    Keeps (fun cursor : Cursor text => cursor.IsPast offset) (expectKind kind) := by
  intro cursor token after past read
  obtain ⟨same, taken⟩ := expectKind_ok read
  exact isPast_next past (by rw [same, hasText]) taken

/-- A dotted name is the text from a name to a later place. -/
theorem gives_dottedName : Gives text dottedName (IsWritten text.size) := by
  intro cursor name last read
  obtain ⟨peeked, _, asked, read⟩ := bind_ok read
  cases asked
  obtain ⟨token, between, expected, read⟩ := bind_ok read
  obtain ⟨isName, taken⟩ := expectKind_ok expected
  obtain ⟨parts, after, more, ended⟩ := bind_ok read
  obtain ⟨rest, stop, endLine, placed⟩ := cursor
  cases rest with
  | nil => cases isName
  | cons first rest =>
    cases taken
    obtain ⟨startsBefore, character, here, isStart⟩ :=
      (placed.stands token List.mem_cons_self).ofName isName
    have past : Cursor.IsPast token.stop (⟨rest, token.stop, token.endLine, placed.tail⟩ :
        Cursor text) :=
      ⟨Nat.le_refl _, (List.pairwise_cons.mp placed.ordered).1⟩
    have loop : Keeps (fun cursor : Cursor text => cursor.IsPast token.stop) (Reader.many do
        if ← accept "." then
          let _ ← expectKind .name
          return some ()
        else return none) :=
      .many (.bind (keeps_accept ".") fun _ =>
        .ite (.bind (keeps_expectKind rfl) fun _ => .pure _) (.pure _))
    have reaches := (loop _ _ _ past more).le_stop
    cases ended
    exact isWritten_extract (Nat.lt_of_lt_of_le startsBefore reaches) here isStart

end Reader

end Declarations.Source
