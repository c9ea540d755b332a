/-
This file proves that the tokens of a source file are spelled as the file is where they stand, so
each is as wide as its text. Tokens come one after the other, so no more commas are left at a place
than characters. This is what bounds the entries of a list that are read there.
-/

import Declarations.Proofs.Source.Forward

namespace Declarations.Source

/-- Whether a token is spelled as the text is where it stands. -/
structure Token.IsSpelledIn (text : List Char) (token : Token) : Prop where
  stop : token.stop = token.start + token.text.length
  here : token.text.toList <+: text.drop token.start

namespace Scan

/-- Whether the tokens that were read so far are spelled as the text is. -/
def Spelled (text : List Char) (scan : Scan) : Prop :=
  ∀ token ∈ scan.tokens, token.IsSpelledIn text

variable {text : List Char} {scan : Scan}

theorem Spelled.mark (spelled : scan.Spelled text) (kind : TokenKind) :
    (scan.mark kind).Spelled text :=
  List.forall_mem_cons.2 ⟨⟨rfl, List.nil_prefix⟩, spelled⟩

theorem Spelled.take (spelled : scan.Spelled text) (sound : Sound text scan) (kind : TokenKind)
    (length : Nat) : (scan.take kind length).Spelled text := by
  refine List.forall_mem_cons.2 ⟨⟨?_, ?_⟩, spelled⟩
  · show scan.offset + (scan.rest.take length).length = _
    rw [String.length_ofList]
  · show (String.ofList (scan.rest.take length)).toList <+: text.drop scan.offset
    rw [String.toList_ofList, ← sound.rest_eq]
    exact List.take_prefix _ _

theorem Spelled.closeBlocks (column : Nat) :
    ∀ {fuel : Nat} {comments : List OwnLineComment} {scan : Scan}, scan.Spelled text →
      (Scan.closeBlocks column fuel comments scan).Spelled text
  | 0, _, _, spelled => spelled
  | fuel + 1, comments, scan, spelled => by
    unfold Scan.closeBlocks
    dsimp only
    split
    · exact Spelled.closeBlocks column (Spelled.mark spelled _)
    · cases comments with
      | nil => exact spelled
      | cons comment others =>
        have taken : (scan.takeComment comment).Spelled text := spelled
        exact Spelled.closeBlocks column taken

theorem Spelled.startLine (spelled : scan.Spelled text) (column : Nat) :
    (scan.startLine column).Spelled text := by
  unfold Scan.startLine
  dsimp only
  split
  · split
    · exact Spelled.closeBlocks column (Spelled.mark spelled _)
    · exact Spelled.closeBlocks column (Spelled.mark spelled _)
  · exact Spelled.closeBlocks column spelled

theorem Spelled.lineStep (spelled : scan.Spelled text) (column : Nat) :
    (scan.lineStep column).Spelled text := by
  unfold Scan.lineStep
  repeat' split
  all_goals first
    | exact spelled
    | exact spelled.startLine _

theorem Spelled.plainStep (spelled : scan.Spelled text) (sound : Sound text scan) :
    scan.plainStep.Spelled text := by
  unfold Scan.plainStep
  repeat' split
  all_goals first
    | exact spelled
    | exact spelled.take sound _ _

theorem Spelled.statementStep (spelled : scan.Spelled text) (sound : Sound text scan) :
    scan.statementStep.Spelled text := by
  unfold Scan.statementStep
  repeat' split
  all_goals first
    | exact spelled
    | exact spelled.take sound _ _
    | exact spelled.plainStep sound

theorem Spelled.finish (spelled : scan.Spelled text) :
    ∀ token ∈ scan.finish, token.IsSpelledIn text := by
  unfold Scan.finish
  intro token member
  rcases List.mem_cons.1 (List.mem_reverse.1 member) with rfl | before
  · exact ⟨rfl, List.nil_prefix⟩
  · split at before
    · exact spelled.startLine 0 token before
    · exact spelled token before

theorem Spelled.run :
    ∀ {fuel : Nat} {scan : Scan}, scan.Spelled text → Sound text scan →
      ∀ token ∈ Scan.run fuel scan, token.IsSpelledIn text
  | 0, _, spelled, _ => spelled.finish
  | fuel + 1, scan, spelled, sound => by
    unfold Scan.run
    split
    · exact spelled.finish
    · split
      · exact Spelled.run (spelled.lineStep _) (sound.lineStep _)
      · exact Spelled.run (spelled.statementStep sound) sound.statementStep

end Scan

/-- The tokens of a text are spelled as the text is where they stand. -/
theorem isSpelledIn_of_mem_tokens {text : List Char} {token : Token}
    (member : token ∈ tokens text) : token.IsSpelledIn text := by
  have start : (Scan.start text).Spelled text := fun _ inside => nomatch inside
  exact start.run (Scan.sound_start text) token member

/-! ### Commas -/

/-- Where tokens stand behind a place, no more of them are commas than characters are left. -/
theorem countP_comma_le {text : List Char} {rest : List Token}
    (spelled : ∀ token ∈ rest, token.IsSpelledIn text)
    (ordered : rest.Pairwise fun earlier later => later.Follows earlier) (stop : Nat)
    (behind : ∀ token ∈ rest, token.kind.isMark = false → stop ≤ token.start) :
    rest.countP (Reader.isSpelled · ",") ≤ text.length - stop := by
  induction rest generalizing stop with
  | nil => exact Nat.zero_le _
  | cons token rest hypothesis =>
    obtain ⟨here, others⟩ := List.forall_mem_cons.1 spelled
    obtain ⟨follow, orderedRest⟩ := List.pairwise_cons.1 ordered
    rw [List.countP_cons]
    split
    next isComma =>
      have later := hypothesis others orderedRest token.stop follow
      have start := behind token List.mem_cons_self (Reader.isMark_of_isSpelled isComma)
      have width : token.text.length = 1 := by
        rw [eq_of_beq (Bool.and_eq_true_iff.1 isComma).2]
        rfl
      have inside := here.here.length_le
      rw [String.length_toList, List.length_drop] at inside
      have stops := here.stop
      omega
    next =>
      exact hypothesis others orderedRest stop fun other member =>
        behind other (List.mem_cons_of_mem _ member)

theorem Cursor.IsAfter.countP_comma_le {text : String} {cursor : Cursor text.toList.toArray}
    (isAfter : (Cursor.ofText text).IsAfter cursor) :
    cursor.rest.countP (Reader.isSpelled · ",") ≤ text.toList.toArray.size - cursor.stop := by
  obtain ⟨taken, whole, stop⟩ := isAfter
  have spelled : ∀ token ∈ taken ++ cursor.rest, token.IsSpelledIn text.toList := by
    rw [whole]
    exact fun _ => isSpelledIn_of_mem_tokens
  have ordered := (placed_tokens text.toList).ordered
  change (taken ++ cursor.rest = tokens text.toList) at whole
  rw [← whole, List.pairwise_append] at ordered
  obtain ⟨-, orderedRest, across⟩ := ordered
  refine Source.countP_comma_le (List.forall_mem_append.1 spelled).2 orderedRest cursor.stop ?_
  intro token member hasText
  rw [← stop]
  cases last : taken.getLast? with
  | none => exact Nat.zero_le _
  | some earlier => exact across earlier (List.mem_of_getLast? last) token member hasText

end Declarations.Source
