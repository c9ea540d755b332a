/-
This file says where words, signs and names stand among the tokens of a file, and proves that the
readers of single tokens take just those. What is left out of such a statement does not matter to
reading: the comments and line continuations in front of a token.
-/

import Declarations.Proofs.Source.Forward

namespace Declarations.Source

namespace Cursor

variable {text : Array Char}

/-- The token in front of which reading stands. -/
def ahead (cursor : Cursor text) : Token :=
  cursor.rest.headD (Reader.fileEnd cursor)

/-- Whether a token stands between two places. -/
structure Takes (cursor : Cursor text) (token : Token) (after : Cursor text) : Prop where
  rest : cursor.rest = token :: after.rest
  stop : after.stop = token.stop
  endLine : after.endLine = token.endLine

/-- Whether a word or sign stands between two places. -/
def Sign (cursor : Cursor text) (spelling : String) (after : Cursor text) : Prop :=
  ∃ token, cursor.Takes token after ∧ Reader.isSpelled token spelling = true

/-- Whether a name stands between two places. -/
def Name (cursor : Cursor text) (name : String) (after : Cursor text) : Prop :=
  ∃ token, cursor.Takes token after ∧ token.kind = .name ∧ token.text = name

variable {cursor after : Cursor text} {token : Token}

theorem Takes.ahead_eq (takes : cursor.Takes token after) : cursor.ahead = token := by
  rw [ahead, takes.rest]
  rfl

theorem Sign.isSpelled_ahead {spelling : String} (sign : cursor.Sign spelling after) :
    Reader.isSpelled cursor.ahead spelling = true := by
  obtain ⟨token, takes, spelled⟩ := sign
  rw [takes.ahead_eq, spelled]

theorem Name.kind_ahead {name : String} (isName : cursor.Name name after) :
    cursor.ahead.kind = .name := by
  obtain ⟨token, takes, kind, -⟩ := isName
  rw [takes.ahead_eq, kind]

end Cursor

namespace Reader

variable {α : Type} {text : Array Char} {cursor after : Cursor text} {token : Token}
  {spelling : String}

/-! ### Spellings -/

/-- A token is spelled in one way. -/
theorem isSpelled_of_ne {other : String} (spelled : isSpelled token spelling = true)
    (different : spelling ≠ other) : isSpelled token other = false := by
  have same := eq_of_beq (Bool.and_eq_true_iff.1 spelled).2
  rw [isSpelled, same, beq_eq_false_iff_ne.2 different, Bool.and_false]

/-- A name is neither a word nor a sign. -/
theorem isSpelled_of_name (kind : token.kind = .name) (spelling : String) :
    isSpelled token spelling = false := by
  rw [isSpelled, kind]
  rfl

/-- What is spelled in some way is a word or a sign and nothing else. -/
theorem kind_ne_of_isSpelled {kind : TokenKind} (spelled : isSpelled token spelling = true)
    (other : (kind == .operator || kind == .keyword) = false) : token.kind ≠ kind := by
  rintro rfl
  rw [isSpelled, other] at spelled
  cases spelled

/-! ### Taking tokens -/

theorem peek_eq : peek text cursor = .ok (cursor.ahead, cursor) :=
  rfl

theorem isNext_eq : isNext spelling text cursor = .ok (isSpelled cursor.ahead spelling, cursor) :=
  rfl

theorem next_of_takes (takes : cursor.Takes token after) :
    next text cursor = .ok (token, after) := by
  obtain ⟨rest, stop, endLine⟩ := takes
  obtain ⟨tokens, _, _, _⟩ := cursor
  obtain ⟨left, _, _, _⟩ := after
  cases rest
  cases stop
  cases endLine
  rfl

/-- The next token is taken where there is one. -/
theorem takes_of_next (read : next text cursor = .ok (token, after))
    (notEnd : cursor.ahead.kind ≠ .fileEnd) : cursor.Takes token after := by
  obtain ⟨rest, _, _, _⟩ := cursor
  cases rest with
  | nil => exact absurd rfl notEnd
  | cons first rest =>
    cases read
    exact ⟨rfl, rfl, rfl⟩

theorem accept_of_sign (sign : cursor.Sign spelling after) :
    accept spelling text cursor = .ok (true, after) := by
  obtain ⟨token, takes, spelled⟩ := sign
  rw [accept, bind_of_ok isNext_eq, takes.ahead_eq, if_pos spelled,
    bind_of_ok (next_of_takes takes)]
  rfl

theorem accept_of_other (other : isSpelled cursor.ahead spelling = false) :
    accept spelling text cursor = .ok (false, cursor) := by
  rw [accept, bind_of_ok isNext_eq, other]
  rfl

theorem sign_of_next (spelled : isSpelled cursor.ahead spelling = true)
    (read : next text cursor = .ok (token, after)) : cursor.Sign spelling after := by
  have takes := takes_of_next read (kind_ne_of_isSpelled spelled rfl)
  exact ⟨token, takes, takes.ahead_eq ▸ spelled⟩

/-- Of two alternatives, the first is read where its sign comes next. -/
theorem accept_then {first second : Reader α} (sign : cursor.Sign spelling after) :
    (do if ← accept spelling then first else second) text cursor = first text after := by
  rw [bind_of_ok (accept_of_sign sign), if_pos rfl]

/-- The second is read where something else comes. -/
theorem accept_else {first second : Reader α}
    (other : isSpelled cursor.ahead spelling = false) :
    (do if ← accept spelling then first else second) text cursor = second text cursor := by
  rw [bind_of_ok (accept_of_other other), if_neg Bool.false_ne_true]

/-- What is read of two alternatives is read behind the sign of the first, or is the second. -/
theorem accept_cases {first second : Reader α} {result : α × Cursor text}
    (read : (do if ← accept spelling then first else second : Reader α) text cursor =
      .ok result) :
    (∃ behind, cursor.Sign spelling behind ∧ first text behind = .ok result) ∨
      second text cursor = .ok result := by
  rw [accept] at read
  obtain ⟨taken, behind, accepted, read⟩ := bind_ok read
  obtain ⟨spelled, _, asked, accepted⟩ := bind_ok accepted
  cases asked
  split at accepted
  next isSpelled =>
    obtain ⟨token, _, took, accepted⟩ := bind_ok accepted
    cases accepted
    exact .inl ⟨behind, sign_of_next isSpelled took, read⟩
  next =>
    cases accepted
    exact .inr read

theorem expect_of_sign (sign : cursor.Sign spelling after) :
    expect spelling text cursor = .ok ((), after) := by
  rw [expect, bind_of_ok (accept_of_sign sign)]
  rfl

theorem sign_of_expect (read : expect spelling text cursor = .ok ((), after)) :
    cursor.Sign spelling after := by
  rcases accept_cases read with ⟨_, sign, read⟩ | read
  · cases read
    exact sign
  · cases read

theorem expectKind_of_name {name : String} (isName : cursor.Name name after) :
    ∃ token, expectKind .name text cursor = .ok (token, after) ∧ token.text = name := by
  obtain ⟨token, takes, kind, named⟩ := isName
  refine ⟨token, ?_, named⟩
  have same : (cursor.ahead.kind == TokenKind.name) = true := by
    rw [takes.ahead_eq, kind]
    rfl
  rw [expectKind, bind_of_ok peek_eq, if_pos same, next_of_takes takes]

theorem name_of_expectKind (read : expectKind .name text cursor = .ok (token, after)) :
    cursor.Name token.text after := by
  obtain ⟨kind, took⟩ := expectKind_ok read
  have takes := takes_of_next took fun isEnd =>
    absurd (kind.symm.trans isEnd) (by decide)
  exact ⟨token, takes, takes.ahead_eq ▸ kind, rfl⟩

/-! ### Repetitions -/

variable {one : Reader (Option α)}

theorem collect_of_none (limit : Nat) (read : one text cursor = .ok (none, cursor)) :
    collect limit one text cursor = .ok ([], cursor) := by
  cases limit with
  | zero => rfl
  | succ limit =>
    rw [collect, bind_of_ok read]
    rfl

theorem collect_succ {limit : Nat} {found : α} {others : List α}
    {between last : Cursor text} (read : one text cursor = .ok (some found, between))
    (rest : collect limit one text between = .ok (others, last)) :
    collect (limit + 1) one text cursor = .ok (found :: others, last) := by
  rw [collect, bind_of_ok read]
  dsimp only
  rw [bind_of_ok rest]
  rfl

end Reader

end Declarations.Source
