/-
This file says how parameter lists are written, and proves that one is read as it is written,
whatever comments and line ends stand in it. An entry is told from the others by its first token,
and what may stand behind its name by the sign in front. A list has entries with commas between
them, and a comma may stand behind the last one.
-/

import Declarations.Proofs.Source.Spelling
import Declarations.Proofs.Source.Steps

namespace Declarations.Source

namespace Cursor

/-- Whether what comes next ends an entry of a list in parentheses. -/
def EndsEntry {text : Array Char} (cursor : Cursor text) : Prop :=
  Reader.isSpelled cursor.ahead "," = true ∨ Reader.isSpelled cursor.ahead ")" = true

theorem EndsEntry.isSpelled {text : Array Char} {cursor : Cursor text} {spelling : String}
    (ends : cursor.EndsEntry) (notComma : "," ≠ spelling) (notClosing : ")" ≠ spelling) :
    Reader.isSpelled cursor.ahead spelling = false :=
  ends.elim (Reader.isSpelled_of_ne · notComma) (Reader.isSpelled_of_ne · notClosing)

end Cursor

/-! ### Entries -/

section

variable {text : Array Char}

/-- Whether an expression stands behind a sign between two places, or neither does. -/
inductive Behind (sign : String) (one : Reader Expr) :
    Option Expr → Cursor text → Cursor text → Prop where
  | missing (cursor : Cursor text) : Behind sign one none cursor cursor
  | written {value : Expr} {cursor between after : Cursor text} :
      cursor.Sign sign between → one text between = .ok (value, after) →
        Behind sign one (some value) cursor after

theorem Behind.isAfter {sign : String} {one : Reader Expr} [Reader.Forward one]
    {value : Option Expr} {cursor after : Cursor text}
    (behind : Behind sign one value cursor after) : cursor.IsAfter after := by
  cases behind with
  | missing => exact .refl _
  | written sign read =>
    exact (Reader.isAfter_of_read (Reader.accept_of_sign sign)).trans (Reader.isAfter_of_read read)

end

/-- A parameter that takes one argument. -/
structure OrdinaryParameter where
  name : String
  hint : Option Expr
  default : Option Expr

/-- The entry of an ordinary parameter. -/
def OrdinaryParameter.item (parameter : OrdinaryParameter) : ParameterItem :=
  match parameter.default, parameter.hint with
  | some value, hint => .defaulted parameter.name hint value.text
  | none, some hint => .typed parameter.name hint
  | none, none => .plain parameter.name

/-- The entry of a pattern, which takes the place of a name where it has a default. -/
def patternItem (source : String) : Option Expr → ParameterItem
  | some value => .defaulted source none value.text
  | none => .pattern

variable {text : Array Char} (exprs : ExprRules)

/-- Whether an entry of a parameter list is written between two places. -/
inductive ParameterItem.Written : ParameterItem → Cursor text → Cursor text → Prop where
  | positionMark {cursor after : Cursor text} :
      cursor.Sign "/" after → Written .positionMark cursor after
  | keywordMark {cursor after : Cursor text} :
      cursor.Sign "*" after → Written .keywordMark cursor after
  | starred {cursor first named after : Cursor text} {name : String} {hint : Option Expr} :
      cursor.Sign "*" first → first.Name name named → Behind ":" exprs.typeExpr hint named after →
        Written (.starred name hint) cursor after
  | doubleStarred {cursor first named after : Cursor text} {name : String} {hint : Option Expr} :
      cursor.Sign "**" first → first.Name name named → Behind ":" exprs.typeExpr hint named after →
        Written (.doubleStarred name hint) cursor after
  | ordinary {cursor named typed after : Cursor text} {name : String}
      {hint default : Option Expr} :
      cursor.Name name named → Behind ":" exprs.typeExpr hint named typed →
        Behind "=" exprs.expression default typed after →
          Written (OrdinaryParameter.item ⟨name, hint, default⟩) cursor after
  | pattern {cursor behind after : Cursor text} {target : Expr} {default : Option Expr} :
      Reader.isSpelled cursor.ahead "(" = true →
        exprs.expression text cursor = .ok (target, behind) → target.isTarget = true →
        Behind "=" exprs.expression default behind after →
          Written (patternItem (String.ofList (text.extract cursor.ahead.start behind.stop).toList)
            default) cursor after

/-- Whether the entries of a parameter list are written between two places, up to and with the
closing parenthesis. -/
inductive ParametersWritten : List ParameterItem → Cursor text → Cursor text → Prop where
  | close {cursor after : Cursor text} : cursor.Sign ")" after → ParametersWritten [] cursor after
  | last {item : ParameterItem} {cursor between after : Cursor text} :
      item.Written exprs cursor between → between.Sign ")" after →
        ParametersWritten [item] cursor after
  | more {item : ParameterItem} {others : List ParameterItem}
      {cursor between behind after : Cursor text} :
      item.Written exprs cursor between → between.Sign "," behind →
        ParametersWritten others behind after → ParametersWritten (item :: others) cursor after

namespace Reader

variable {α : Type} {exprs} {cursor after : Cursor text}

theorem hint_of_behind {type : Option Expr} (behind : Behind ":" exprs.typeExpr type cursor after)
    (ends : isSpelled after.ahead ":" = false) : hint exprs text cursor = .ok (type, after) := by
  cases behind with
  | missing =>
    rw [hint, accept_else ends]
    rfl
  | written sign read =>
    rw [hint, accept_then sign, bind_of_ok read]
    rfl

/-- An entry is read as it is written. -/
theorem parameter_of_written {item : ParameterItem} (written : item.Written exprs cursor after)
    (ends : after.EndsEntry) : parameter exprs text cursor = .ok (item, after) := by
  -- What ends an entry is no sign of a hint or a default that would belong to it.
  have noHint : isSpelled after.ahead ":" = false :=
    ends.isSpelled (by decide) (by decide)
  have noDefault : isSpelled after.ahead "=" = false :=
    ends.isSpelled (by decide) (by decide)
  rw [parameter, bind_of_ok peek_eq]
  cases written with
  | positionMark sign =>
    rw [bind_of_ok (accept_of_sign sign)]
    rfl
  | keywordMark sign =>
    have spelled := sign.isSpelled_ahead
    have noName : ¬ (after.ahead.kind == TokenKind.name) = true := fun same =>
      ends.elim (kind_ne_of_isSpelled · rfl) (kind_ne_of_isSpelled · rfl) (eq_of_beq same)
    rw [accept_else (isSpelled_of_ne spelled (by decide : "*" ≠ "/")),
      accept_else (isSpelled_of_ne spelled (by decide : "*" ≠ "**")), accept_then sign,
      bind_of_ok peek_eq, if_neg noName]
    rfl
  | @starred _ first _ _ name type sign named behind =>
    have spelled := sign.isSpelled_ahead
    obtain ⟨token, takes, kind, rfl⟩ := named
    have isName : (first.ahead.kind == TokenKind.name) = true := by
      rw [takes.ahead_eq, kind]
      rfl
    rw [accept_else (isSpelled_of_ne spelled (by decide : "*" ≠ "/")),
      accept_else (isSpelled_of_ne spelled (by decide : "*" ≠ "**")), accept_then sign,
      bind_of_ok peek_eq, if_pos isName, bind_of_ok (next_of_takes takes),
      bind_of_ok (hint_of_behind behind noHint)]
    rfl
  | doubleStarred sign named behind =>
    obtain ⟨token, read, rfl⟩ := expectKind_of_name named
    rw [accept_else (isSpelled_of_ne sign.isSpelled_ahead (by decide : "**" ≠ "/")),
      accept_then sign, bind_of_ok read, bind_of_ok (hint_of_behind behind noHint)]
    rfl
  | @ordinary _ _ typed _ _ type _ named behind value =>
    have other := isSpelled_of_name named.kind_ahead
    have noPattern : ¬ isSpelled cursor.ahead "(" = true := Bool.eq_false_iff.1 (other "(")
    have afterHint : isSpelled typed.ahead ":" = false := by
      cases value with
      | missing => exact noHint
      | written sign _ => exact isSpelled_of_ne sign.isSpelled_ahead (by decide)
    obtain ⟨token, read, rfl⟩ := expectKind_of_name named
    rw [accept_else (other "/"), accept_else (other "**"), accept_else (other "*"),
      bind_of_ok isNext_eq, if_neg noPattern, bind_of_ok read,
      bind_of_ok (hint_of_behind behind afterHint)]
    cases value with
    | missing =>
      rw [accept_else noDefault]
      cases type <;> rfl
    | written sign read =>
      rw [accept_then sign, bind_of_ok read]
      rfl
  | @pattern _ behind _ target _ opening read isTarget value =>
    have noRefusal : ¬ (!target.isTarget) = true := by
      rw [isTarget]
      exact Bool.false_ne_true
    rw [accept_else (isSpelled_of_ne opening (by decide : "(" ≠ "/")),
      accept_else (isSpelled_of_ne opening (by decide : "(" ≠ "**")),
      accept_else (isSpelled_of_ne opening (by decide : "(" ≠ "*")), bind_of_ok isNext_eq,
      if_pos opening, bind_of_ok read, if_neg noRefusal]
    dsimp only
    have source : textFrom cursor.ahead.start text behind =
        .ok (String.ofList (text.extract cursor.ahead.start behind.stop).toList, behind) :=
      rfl
    rw [bind_of_ok source]
    cases value with
    | missing =>
      rw [accept_else noDefault]
      rfl
    | written sign read =>
      rw [accept_then sign, bind_of_ok read]
      rfl

theorem behind_of_hint {type : Option Expr} (read : hint exprs text cursor = .ok (type, after)) :
    Behind ":" exprs.typeExpr type cursor after := by
  rcases accept_cases read with ⟨_, sign, read⟩ | read
  · obtain ⟨value, _, found, read⟩ := bind_ok read
    cases read
    exact .written sign found
  · cases read
    exact .missing _

/-- What is read as an entry is written as one. -/
theorem written_of_parameter {item : ParameterItem}
    (read : parameter exprs text cursor = .ok (item, after)) : item.Written exprs cursor after := by
  obtain ⟨_, _, peeked, read⟩ := bind_ok read
  cases peeked
  rcases accept_cases read with ⟨_, sign, read⟩ | read
  · cases read
    exact .positionMark sign
  rcases accept_cases read with ⟨_, sign, read⟩ | read
  · obtain ⟨name, _, named, read⟩ := bind_ok read
    obtain ⟨_, _, hinted, read⟩ := bind_ok read
    cases read
    exact .doubleStarred sign (name_of_expectKind named) (behind_of_hint hinted)
  rcases accept_cases read with ⟨between, sign, read⟩ | read
  · obtain ⟨_, _, peeked, read⟩ := bind_ok read
    cases peeked
    split at read
    next isName =>
      obtain ⟨name, behind, took, read⟩ := bind_ok read
      obtain ⟨_, _, hinted, read⟩ := bind_ok read
      cases read
      have named : expectKind .name text between = .ok (name, behind) := by
        rw [expectKind, bind_of_ok peek_eq, Cursor.ahead, if_pos isName, took]
      exact .starred sign (name_of_expectKind named) (behind_of_hint hinted)
    next =>
      cases read
      exact .keywordMark sign
  rw [bind_of_ok isNext_eq] at read
  split at read
  next opening =>
    obtain ⟨target, behind, found, read⟩ := bind_ok read
    split at read
    next => cases read
    next noRefusal =>
      have isTarget : target.isTarget = true := by simpa using noRefusal
      obtain ⟨_, _, source, read⟩ := bind_ok read
      cases source
      rcases accept_cases read with ⟨_, sign, read⟩ | read
      · obtain ⟨_, _, default, read⟩ := bind_ok read
        cases read
        exact .pattern opening found isTarget (.written sign default)
      · cases read
        exact .pattern opening found isTarget (.missing _)
  next =>
    obtain ⟨name, _, named, read⟩ := bind_ok read
    obtain ⟨type, _, hinted, read⟩ := bind_ok read
    rcases accept_cases read with ⟨_, sign, read⟩ | read
    · obtain ⟨value, _, default, read⟩ := bind_ok read
      cases read
      exact .ordinary (name_of_expectKind named)
        (behind_of_hint hinted) (.written sign default)
    · cases type with
      | none | some type =>
        cases read
        exact .ordinary (name_of_expectKind named) (behind_of_hint hinted) (.missing _)

/-! ### Lists of entries -/

/-- Reads a comma and what stands behind it, which is nothing at the end of a list. -/
def behindComma (ends : Token → Bool) (one : Reader α) : Reader (Option (Option α)) := do
  if ← isNext "," then
    let _ ← next
    if ends (← peek) then return some none else return some (some (← one))
  else return none

theorem separated_eq (ends : Token → Bool) (one : Reader α) :
    separated ends one = (do
      let first ← one
      let others ← many (behindComma ends one)
      return (first :: others.filterMap id, !others.isEmpty)) :=
  rfl

/-- What is left behind a comma holds one comma less. -/
theorem countP_of_sign (sign : cursor.Sign "," after) :
    cursor.rest.countP (isSpelled · ",") = after.rest.countP (isSpelled · ",") + 1 := by
  obtain ⟨token, takes, spelled⟩ := sign
  rw [takes.rest]
  exact List.countP_cons_of_pos spelled

/-- The entries of a parameter list, or its end. -/
abbrev nextParameters (exprs : ExprRules) : Reader (Option (Option ParameterItem)) :=
  behindComma (fun token => isSpelled token ")") (parameter exprs)

theorem collect_of_closing {limit : Nat} {last : Cursor text} (closing : cursor.Sign ")" last) :
    collect limit (nextParameters exprs) text cursor = .ok ([], cursor) := by
  have noComma := isSpelled_of_ne closing.isSpelled_ahead (by decide : ")" ≠ ",")
  refine collect_of_none limit ?_
  rw [nextParameters, behindComma, bind_of_ok isNext_eq, noComma]
  rfl

/-- The first token of an entry does not close a list. -/
theorem not_closing_of_written {item : ParameterItem}
    (written : item.Written exprs cursor after) : isSpelled cursor.ahead ")" = false := by
  cases written with
  | positionMark sign | keywordMark sign | starred sign _ _ | doubleStarred sign _ _ =>
    exact isSpelled_of_ne sign.isSpelled_ahead (by decide)
  | ordinary named _ _ => exact isSpelled_of_name named.kind_ahead ")"
  | pattern opening _ _ _ => exact isSpelled_of_ne opening (by decide)

theorem nextParameters_of_closing {behind after : Cursor text} (comma : cursor.Sign "," behind)
    (closing : behind.Sign ")" after) :
    nextParameters exprs text cursor = .ok (some none, behind) := by
  obtain ⟨token, takes, spelled⟩ := comma
  rw [nextParameters, behindComma, bind_of_ok isNext_eq, takes.ahead_eq, if_pos spelled,
    bind_of_ok (next_of_takes takes), bind_of_ok peek_eq, if_pos closing.isSpelled_ahead]
  rfl

theorem nextParameters_of_written {item : ParameterItem} {behind : Cursor text}
    (comma : cursor.Sign "," behind) (written : item.Written exprs behind after)
    (ends : after.EndsEntry) :
    nextParameters exprs text cursor = .ok (some (some item), after) := by
  obtain ⟨token, takes, spelled⟩ := comma
  have goesOn : ¬ isSpelled behind.ahead ")" = true :=
    Bool.eq_false_iff.1 (not_closing_of_written written)
  rw [nextParameters, behindComma, bind_of_ok isNext_eq, takes.ahead_eq, if_pos spelled,
    bind_of_ok (next_of_takes takes), bind_of_ok peek_eq, if_neg goesOn,
    bind_of_ok (parameter_of_written written ends)]
  rfl

theorem countP_le_of_written [exprs.Forward] {item : ParameterItem}
    (written : item.Written exprs cursor after) (ends : after.EndsEntry) :
    after.rest.countP (isSpelled · ",") ≤ cursor.rest.countP (isSpelled · ",") :=
  (isAfter_of_read (parameter_of_written written ends)).suffix.sublist.countP_le

/-- Behind a comma, the entries of a list are read up to its closing parenthesis. Each takes a
comma, so there are enough steps where there are no fewer than commas that are left. -/
theorem collect_of_written [exprs.Forward] {items : List ParameterItem}
    {behind after : Cursor text} (written : ParametersWritten exprs items behind after)
    (limit : Nat) {cursor : Cursor text} (comma : cursor.Sign "," behind)
    (enough : cursor.rest.countP (isSpelled · ",") ≤ limit) :
    ∃ found closing, collect limit (nextParameters exprs) text cursor = .ok (found, closing) ∧
      found.filterMap id = items ∧ closing.Sign ")" after := by
  induction written generalizing limit cursor with
  | close sign =>
    rw [countP_of_sign comma] at enough
    obtain ⟨limit, rfl⟩ := Nat.exists_eq_add_of_lt enough
    exact ⟨[none], _, collect_succ (nextParameters_of_closing comma sign)
      (collect_of_closing sign), rfl, sign⟩
  | last itemWritten sign =>
    rw [countP_of_sign comma] at enough
    obtain ⟨limit, rfl⟩ := Nat.exists_eq_add_of_lt enough
    exact ⟨[some _], _, collect_succ
      (nextParameters_of_written comma itemWritten (.inr sign.isSpelled_ahead))
      (collect_of_closing sign), rfl, sign⟩
  | @more item _ _ between _ _ itemWritten sign _ hypothesis =>
    have ends : between.EndsEntry := .inl sign.isSpelled_ahead
    have fewer := countP_le_of_written itemWritten ends
    rw [countP_of_sign comma] at enough
    obtain ⟨limit, rfl⟩ := Nat.exists_eq_add_of_lt enough
    obtain ⟨found, closing, read, same, closes⟩ := hypothesis _ sign
      (Nat.le_trans fewer (Nat.le_add_right _ limit))
    refine ⟨some item :: found, closing, collect_succ
      (nextParameters_of_written comma itemWritten ends) read, ?_, closes⟩
    rw [List.filterMap_cons, same]
    rfl

theorem nextParameters_cases {found : Option (Option ParameterItem)}
    (read : nextParameters exprs text cursor = .ok (found, after)) :
    (found = none ∧ cursor = after) ∨
      (found = some none ∧ cursor.Sign "," after ∧ isSpelled after.ahead ")" = true) ∨
        ∃ item behind, found = some (some item) ∧ cursor.Sign "," behind ∧
          item.Written exprs behind after := by
  rw [nextParameters, behindComma, bind_of_ok isNext_eq] at read
  split at read
  next isComma =>
    obtain ⟨token, between, took, read⟩ := bind_ok read
    obtain ⟨_, _, peeked, read⟩ := bind_ok read
    cases peeked
    have comma := sign_of_next isComma took
    split at read
    next closes =>
      cases read
      exact .inr (.inl ⟨rfl, comma, closes⟩)
    next =>
      obtain ⟨item, _, found, read⟩ := bind_ok read
      cases read
      exact .inr (.inr ⟨item, between, rfl, comma, written_of_parameter found⟩)
  next =>
    cases read
    exact .inl ⟨rfl, rfl⟩

/-- What is read behind an entry, up to a closing parenthesis, is the rest of the list. -/
theorem written_of_collect {found : List (Option ParameterItem)} {closing : Cursor text} :
    (limit : Nat) → {cursor : Cursor text} →
      collect limit (nextParameters exprs) text cursor = .ok (found, closing) →
        closing.Sign ")" after →
          (found.filterMap id = [] ∧ cursor.Sign ")" after) ∨
            ∃ behind, cursor.Sign "," behind ∧
              ParametersWritten exprs (found.filterMap id) behind after
  | 0, cursor, read, closes => by
    cases read
    exact .inl ⟨rfl, closes⟩
  | limit + 1, cursor, read, closes => by
    obtain ⟨first, between, next, read⟩ := bind_ok read
    rcases nextParameters_cases next with
      ⟨rfl, rfl⟩ | ⟨rfl, comma, ends⟩ | ⟨item, behind, rfl, comma, written⟩
    · cases read
      exact .inl ⟨rfl, closes⟩
    · obtain ⟨others, _, collected, read⟩ := bind_ok read
      cases read
      refine .inr ⟨between, comma, ?_⟩
      rcases written_of_collect limit collected closes with ⟨noOthers, sign⟩ | ⟨_, sign, _⟩
      · exact noOthers.symm ▸ .close sign
      · rw [isSpelled_of_ne sign.isSpelled_ahead (by decide)] at ends
        cases ends
    · obtain ⟨others, _, collected, read⟩ := bind_ok read
      cases read
      refine .inr ⟨behind, comma, ?_⟩
      rcases written_of_collect limit collected closes with ⟨noOthers, sign⟩ | ⟨_, sign, rest⟩
      · have alone : List.filterMap id (some item :: others) = [item] :=
          congrArg (item :: ·) noOthers
        exact alone ▸ .last written sign
      · exact .more written sign rest

end Reader

variable {exprs}

open Reader

/-- A parameter list of a file is read as it is written. -/
theorem parametersRest_of_written [exprs.Forward] {text : String}
    {cursor after : Cursor text.toList.toArray} (isAfter : (Cursor.ofText text).IsAfter cursor)
    {items : List ParameterItem} (written : ParametersWritten exprs items cursor after) :
    parametersRest exprs text.toList.toArray cursor = .ok (items, after) := by
  have entries {item : ParameterItem} {between : Cursor text.toList.toArray}
      {found : List (Option ParameterItem)} {closing : Cursor text.toList.toArray}
      (itemWritten : item.Written exprs cursor between) (ends : between.EndsEntry)
      (read : many (nextParameters exprs) text.toList.toArray between = .ok (found, closing))
      (closes : closing.Sign ")" after) :
      parametersRest exprs text.toList.toArray cursor =
        .ok (item :: found.filterMap id, after) := by
    have separate : separated (fun token => isSpelled token ")") (parameter exprs)
        text.toList.toArray cursor =
          .ok ((item :: found.filterMap id, !found.isEmpty), closing) := by
      rw [separated_eq, bind_of_ok (parameter_of_written itemWritten ends), bind_of_ok read]
      rfl
    rw [parametersRest, accept_else (not_closing_of_written itemWritten), bind_of_ok separate]
    dsimp only
    rw [bind_of_ok (expect_of_sign closes)]
    rfl
  cases written with
  | close sign =>
    rw [parametersRest, bind_of_ok (accept_of_sign sign)]
    rfl
  | last itemWritten sign =>
    exact entries itemWritten (.inr sign.isSpelled_ahead) (collect_of_closing sign) sign
  | @more _ _ _ between _ _ itemWritten sign others =>
    have ends : between.EndsEntry := .inl sign.isSpelled_ahead
    -- Reading goes on after the first entry, so the commas that are left are still few enough.
    have isAfterFirst : (Cursor.ofText text).IsAfter between :=
      Forward.keeps _ _ _ _ _ isAfter (parameter_of_written itemWritten ends)
    obtain ⟨found, closing, read, rfl, closes⟩ := collect_of_written others _ sign
      (Nat.le_succ_of_le isAfterFirst.countP_comma_le)
    exact entries itemWritten ends read closes

/-- What is read as a parameter list is written as one. -/
theorem written_of_parametersRest {text : Array Char} {cursor after : Cursor text}
    {items : List ParameterItem} (read : parametersRest exprs text cursor = .ok (items, after)) :
    ParametersWritten exprs items cursor after := by
  rcases accept_cases read with ⟨_, sign, read⟩ | read
  · cases read
    exact .close sign
  obtain ⟨_, closing, separate, read⟩ := bind_ok read
  obtain ⟨_, _, closes, read⟩ := bind_ok read
  rw [separated_eq] at separate
  obtain ⟨item, between, first, separate⟩ := bind_ok separate
  obtain ⟨found, _, others, separate⟩ := bind_ok separate
  cases separate
  cases read
  have written := written_of_parameter first
  rcases written_of_collect _ others (sign_of_expect closes) with ⟨noOthers, sign⟩ | ⟨_, sign, rest⟩
  · exact noOthers.symm ▸ .last written sign
  · exact .more written sign rest

end Declarations.Source
