/-
This file proves where the tokens of a source file stand: each at its text, one after the
other, and a name where a name may start. Line ends and the ends of blocks stand where
the statement before them ended, so only tokens with a text are told to come later.
-/

import Declarations.Source.Layout

namespace Declarations.Source

/-- Whether tokens of a kind mark a place and have no text. -/
def TokenKind.isMark : TokenKind → Bool
  | .lineEnd | .indent | .outdent | .fileEnd => true
  | _ => false

/-- Whether a token stands in a text. -/
structure Token.Stands (text : List Char) (token : Token) : Prop where
  start_le_stop : token.start ≤ token.stop
  /-- A name has a text and starts like one. -/
  ofName : token.kind = .name →
    token.start < token.stop ∧ ∃ first, text[token.start]? = some first ∧ startsName first

/-- Whether a token that has a text comes after another. -/
def Token.Follows (later earlier : Token) : Prop :=
  later.kind.isMark = false → earlier.stop ≤ later.start

/-- Whether tokens stand in a text one after the other. -/
structure Placed (text : List Char) (tokens : List Token) : Prop where
  stands : ∀ token ∈ tokens, token.Stands text
  ordered : tokens.Pairwise fun earlier later => later.Follows earlier

theorem Placed.tail {text : List Char} {token : Token} {rest : List Token}
    (placed : Placed text (token :: rest)) : Placed text rest where
  stands other member := placed.stands other (List.mem_cons_of_mem _ member)
  ordered := placed.ordered.of_cons

/-! ### Reading -/

namespace Scan

/-- Whether what was read so far stands in front of what is left. -/
structure Sound (text : List Char) (scan : Scan) : Prop where
  rest_eq : scan.rest = text.drop scan.offset
  stands : ∀ token ∈ scan.tokens, token.Stands text
  passed : ∀ token ∈ scan.tokens, token.stop ≤ scan.offset
  ordered : scan.tokens.Pairwise Token.Follows
  lastStop_le : scan.lastStop ≤ scan.offset
  comments : ∀ comment ∈ scan.comments, comment.stop ≤ scan.offset

variable {text : List Char} {scan : Scan}

theorem sound_start (text : List Char) : Sound text (start text) where
  rest_eq := rfl
  stands _ member := nomatch member
  passed _ member := nomatch member
  ordered := .nil
  lastStop_le := Nat.le_refl 0
  comments _ member := nomatch member

/-- It does not matter where lines, blocks and brackets stand. -/
theorem Sound.set (sound : Sound text scan) {line lastLine : Nat} {column : Option Nat}
    {before : List Filler} {blocks : List Nat} {brackets : List Bracket}
    {opensBlock inStatement : Bool} :
    Sound text
      { scan with line, lastLine, column, before, blocks, brackets, opensBlock, inStatement } :=
  ⟨sound.rest_eq, sound.stands, sound.passed, sound.ordered, sound.lastStop_le, sound.comments⟩

theorem Sound.stopAt (sound : Sound text scan) {stop : Nat} (passed : stop ≤ scan.offset) :
    Sound text { scan with lastStop := stop } :=
  ⟨sound.rest_eq, sound.stands, sound.passed, sound.ordered, passed, sound.comments⟩

theorem Sound.skip (sound : Sound text scan) (length : Nat) : Sound text (scan.skip length) := by
  have later : scan.offset ≤ (scan.skip length).offset := Nat.le_add_right _ _
  refine ⟨?_, sound.stands, fun token member => Nat.le_trans (sound.passed token member) later,
    sound.ordered, Nat.le_trans sound.lastStop_le later,
    fun comment member => Nat.le_trans (sound.comments comment member) later⟩
  show scan.rest.drop length = text.drop (scan.offset + (scan.rest.take length).length)
  rw [sound.rest_eq, List.length_take, ← List.drop_drop]
  rcases Nat.le_total length (text.drop scan.offset).length with within | beyond
  · rw [Nat.min_eq_left within]
  · rw [Nat.min_eq_right beyond, List.drop_length, List.drop_eq_nil_of_le beyond]

/-- A token keeps all sound that stands and comes after those before it. -/
theorem Sound.cons (sound : Sound text scan) {token : Token} (stands : token.Stands text)
    (passed : token.stop ≤ scan.offset)
    (follows : ∀ earlier ∈ scan.tokens, token.Follows earlier) :
    Sound text { scan with tokens := token :: scan.tokens } where
  rest_eq := sound.rest_eq
  stands := List.forall_mem_cons.mpr ⟨stands, sound.stands⟩
  passed := List.forall_mem_cons.mpr ⟨passed, sound.passed⟩
  ordered := .cons follows sound.ordered
  lastStop_le := sound.lastStop_le
  comments := sound.comments

theorem Sound.mark (sound : Sound text scan) {kind : TokenKind} (isMark : kind.isMark = true) :
    Sound text (scan.mark kind) := by
  have named : kind ≠ .name := by
    rintro rfl
    cases isMark
  have stands : Token.Stands text ⟨kind, "", scan.lastStop, scan.lastStop, scan.lastLine,
      scan.lastLine, scan.before.reverse⟩ :=
    ⟨Nat.le_refl _, fun isName => absurd isName named⟩
  have marked := sound.cons stands sound.lastStop_le
    fun _ _ hasText => absurd (isMark.symm.trans hasText) Bool.noConfusion
  exact marked.set

theorem Sound.takeComment (sound : Sound text scan) {comment : OwnLineComment}
    (passed : comment.stop ≤ scan.offset) : Sound text (scan.takeComment comment) :=
  (sound.stopAt passed).set

theorem Sound.closeBlocks (column : Nat) :
    ∀ {fuel : Nat} {comments : List OwnLineComment} {scan : Scan}, Sound text scan →
      (∀ comment ∈ comments, comment.stop ≤ scan.offset) →
      Sound text (Scan.closeBlocks column fuel comments scan)
  | 0, _, _, sound, _ => sound
  | fuel + 1, comments, scan, sound, passed => by
    unfold Scan.closeBlocks
    dsimp only
    split
    · exact Sound.closeBlocks column (sound.set.mark rfl) passed
    · cases comments with
      | nil => exact sound
      | cons comment others =>
        exact Sound.closeBlocks column
          (sound.takeComment (passed comment List.mem_cons_self))
          fun other member => passed other (List.mem_cons_of_mem _ member)

theorem Sound.startLine (sound : Sound text scan) (column : Nat) :
    Sound text (scan.startLine column) := by
  have passed : ∀ comment ∈ scan.comments.reverse, comment.stop ≤ scan.offset :=
    fun comment member => sound.comments comment (List.mem_reverse.mp member)
  have bare : Sound text { scan with comments := [] } :=
    ⟨sound.rest_eq, sound.stands, sound.passed, sound.ordered, sound.lastStop_le,
      fun _ member => nomatch member⟩
  unfold Scan.startLine
  dsimp only
  split
  · split
    · exact Sound.closeBlocks column (bare.set.mark rfl).set passed
    · exact Sound.closeBlocks column (bare.set.mark rfl) passed
  · exact Sound.closeBlocks column bare.set passed

/-- Whether a token at the start of a text, if it is a name, is one that may start there. -/
def NameStarts (text : List Char) (token : TokenKind × Nat) : Prop :=
  token.1 = .name → 0 < token.2 ∧ ∃ first rest, text = first :: rest ∧ startsName first

theorem nameStarts_of_other {text : List Char} {kind : TokenKind} (length : Nat)
    (other : (kind == .name) = false) : NameStarts text (kind, length) := by
  rintro rfl
  cases other

theorem nameStarts_literalAt? {text : List Char} :
    ∀ token ∈ literalAt? text, NameStarts text token := by
  intro token member
  obtain ⟨_, -, rfl⟩ := Option.map_eq_some_iff.1 member
  dsimp only
  split <;> exact nameStarts_of_other _ rfl

theorem nameStarts_holeToken (hole : Hole) (isFirstName : Bool) {text : List Char} :
    ∀ token ∈ hole.tokenAt? isFirstName text, NameStarts text token := by
  intro token member
  unfold Hole.tokenAt? at member
  cases text with
  | nil => cases member
  | cons character rest =>
    dsimp only at member
    split at member
    · obtain ⟨_, -, rfl⟩ := Option.map_eq_some_iff.1 member
      split <;> exact nameStarts_of_other _ rfl
    · repeat' first
        | split at member
        | cases member
      all_goals exact nameStarts_of_other _ rfl

/-- A name starts with a character that may start one. -/
theorem nameStarts_tokenAt (text : List Char) : NameStarts text (tokenAt text) := by
  unfold tokenAt
  split
  · exact nameStarts_of_other _ rfl
  next first rest =>
    split
    next token found => exact nameStarts_literalAt? token found
    · split
      next starts => exact fun _ => ⟨Nat.lt_add_right _ Nat.one_pos, first, rest, rfl, starts⟩
      · split
        · exact nameStarts_of_other _ rfl
        · split <;> exact nameStarts_of_other _ rfl

theorem Sound.take (sound : Sound text scan) {kind : TokenKind} {length : Nat}
    (starts : NameStarts scan.rest (kind, length)) : Sound text (scan.take kind length) := by
  have skipped := sound.skip length
  have later : scan.offset ≤ (scan.skip length).offset := Nat.le_add_right _ _
  have stands : ∀ text' line endLine before, Token.Stands text
      ⟨kind, text', scan.offset, (scan.skip length).offset, line, endLine, before⟩ := by
    refine fun _ _ _ _ => ⟨later, fun isName => ?_⟩
    obtain ⟨positive, first, rest, rest_eq, starts⟩ := starts isName
    refine ⟨?_, first, ?_, starts⟩
    · show scan.offset < scan.offset + (scan.rest.take length).length
      have : 0 < scan.rest.length := by
        rw [rest_eq]
        exact Nat.succ_pos _
      rw [List.length_take]
      omega
    · show text[scan.offset]? = some first
      rw [← List.head?_drop, ← sound.rest_eq, rest_eq]
      rfl
  exact ((skipped.cons (stands _ _ _ _) (Nat.le_refl _)
    fun earlier member _ => sound.passed earlier member).stopAt (Nat.le_refl _)).set

theorem Sound.lineStep (sound : Sound text scan) (column : Nat) :
    Sound text (scan.lineStep column) := by
  unfold Scan.lineStep
  split
  · exact sound.startLine 0
  next character rest _ =>
    have skipped := sound.skip
    split
    · exact (skipped 1).set
    · split
      · exact (skipped 1).set
      · split
        · exact (skipped 1).set
        · split
          · have after := skipped ((character :: rest).takeWhile (· ≠ '\n')).length
            exact ⟨after.rest_eq, after.stands, after.passed, after.ordered, after.lastStop_le,
              List.forall_mem_cons.mpr ⟨Nat.le_refl _, after.comments⟩⟩
          · split
            next length _ => exact (skipped length).set
            · exact sound.startLine column

theorem Sound.plainStep (sound : Sound text scan) : Sound text scan.plainStep := by
  unfold Scan.plainStep
  split
  · exact sound
  next character rest _ =>
    have skipped := sound.skip
    split
    · exact skipped 1
    · split
      · have after := skipped ((character :: rest).takeWhile (· ≠ '\n')).length
        exact (after.stopAt (Nat.le_refl _)).set
      · split
        next length _ => exact (skipped length).set
        · exact sound.take (nameStarts_tokenAt scan.rest)

theorem Sound.statementStep (sound : Sound text scan) : Sound text scan.statementStep := by
  unfold Scan.statementStep
  split
  · split
    · exact sound.set
    · exact sound.skip 1
  · split
    next kind length found =>
      obtain ⟨hole, -, found⟩ := Option.bind_eq_some_iff.1 found
      exact sound.take (nameStarts_holeToken hole _ _ found)
    · exact sound.plainStep

theorem Sound.finish (sound : Sound text scan) : Placed text scan.finish := by
  unfold Scan.finish
  dsimp only
  have closed : Sound text (if scan.brackets.isEmpty then scan.startLine 0 else scan) := by
    split
    · exact sound.startLine 0
    · exact sound
  generalize (if scan.brackets.isEmpty then scan.startLine 0 else scan) = closedScan at closed
  generalize (if closedScan.isStuck then closedScan.lastLine else _) = line
  have stands : Token.Stands text ⟨.fileEnd, "", closedScan.lastStop, closedScan.lastStop, line,
      line, closedScan.before.reverse⟩ :=
    ⟨Nat.le_refl _, nofun⟩
  have ended := closed.cons stands closed.lastStop_le fun _ _ hasText => nomatch hasText
  exact ⟨fun token member => ended.stands token (List.mem_reverse.mp member),
    List.pairwise_reverse.mpr ended.ordered⟩

theorem Sound.run :
    ∀ {fuel : Nat} {scan : Scan}, Sound text scan → Placed text (Scan.run fuel scan)
  | 0, _, sound => sound.finish
  | fuel + 1, scan, sound => by
    unfold Scan.run
    split
    · exact sound.finish
    · split
      · exact Sound.run (sound.lineStep _)
      · exact Sound.run sound.statementStep

end Scan

/-- The tokens of a text stand in it one after the other. -/
theorem placed_tokens (text : List Char) : Placed text (tokens text) :=
  (Scan.sound_start text).run

end Declarations.Source
