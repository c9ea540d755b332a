/-
This file holds patterns for paths. In a pattern a question mark stands for any
character, a star for any text, brackets for one of some characters, and two stars, which
must be a whole component, for any number of directories.
-/

namespace Declarations

/-- Some characters: one, or all from a first to a last one. -/
inductive GlobRange where
  | one (character : Char)
  | between (first last : Char)
deriving DecidableEq, Repr, Inhabited

/-- A part of a pattern. -/
inductive GlobPart where
  | character (character : Char)
  | anyCharacter
  | anyText
  | anyDirectories
  | among (ranges : List GlobRange)
  | except (ranges : List GlobRange)
deriving DecidableEq, Repr, Inhabited

/-- A pattern. -/
abbrev GlobPattern : Type :=
  List GlobPart

/-- What may be wrong with a pattern. -/
inductive GlobFault where
  | tooManyStars
  | partOfComponent
  | badBrackets
deriving DecidableEq, Repr, Inhabited

/-- What is wrong with a pattern, and at which of its characters. -/
structure GlobError where
  fault : GlobFault
  position : Nat
deriving DecidableEq, Repr, Inhabited

/-- The words for a fault. -/
def GlobFault.message : GlobFault → String
  | .tooManyStars => "wildcards are either regular `*` or recursive `**`"
  | .partOfComponent => "recursive wildcards must form a single path component"
  | .badBrackets => "invalid range pattern"

/-- The message of an error. -/
def GlobError.message (error : GlobError) : String :=
  s!"Pattern syntax error near position {error.position}: {error.fault.message}"

namespace GlobRange

/-- The ranges written between brackets. -/
def parse : List Char → List GlobRange
  | first :: '-' :: last :: rest => .between first last :: parse rest
  | character :: rest => .one character :: parse rest
  | [] => []

/-- Whether a character is in a range. -/
def contains (character : Char) : GlobRange → Bool
  | .one only => character == only
  | .between first last => first ≤ character && character ≤ last

end GlobRange

namespace GlobPattern

/-- What stands between brackets up to the closing one, which is never the first character. -/
def brackets : List Char → Option (List Char × List Char)
  | [] => none
  | first :: rest =>
    match rest.dropWhile (· ≠ ']') with
    | _ :: after => some (first :: rest.takeWhile (· ≠ ']'), after)
    | [] => none

/-- The part that brackets stand for, and what follows them. -/
def bracketPart : List Char → Option (GlobPart × List Char)
  | '!' :: rest => (brackets rest).map fun (inner, rest) => (.except (GlobRange.parse inner), rest)
  | rest => (brackets rest).map fun (inner, rest) => (.among (GlobRange.parse inner), rest)

theorem length_brackets {text inner rest : List Char} (found : brackets text = some (inner, rest)) :
    rest.length < text.length := by
  unfold brackets at found
  split at found
  · simp at found
  next first others =>
    split at found
    next closing after same =>
      have shorter := (List.dropWhile_sublist (· ≠ ']') : List.Sublist _ others).length_le
      have equal : after = rest := by simpa using congrArg (·.2) (Option.some.inj found)
      rw [same, equal] at shorter
      simp only [List.length_cons] at shorter ⊢
      omega
    · simp at found

theorem length_bracketPart {text rest : List Char} {part : GlobPart}
    (found : bracketPart text = some (part, rest)) : rest.length < text.length := by
  unfold bracketPart at found
  split at found
  all_goals
    obtain ⟨⟨inner, after⟩, bracket, same⟩ := Option.map_eq_some_iff.1 found
    have shorter := length_brackets bracket
    simp only [Prod.mk.injEq] at same
    simp only [← same.2, List.length_cons]
    omega

/-- The parts of a text that starts at a position after some character. -/
def parseFrom (position : Nat) (before : Option Char) (text : List Char) :
    Except GlobError GlobPattern :=
  match text with
  | [] => .ok []
  | '?' :: rest => do return .anyCharacter :: (← parseFrom (position + 1) (some '?') rest)
  | '*' :: '*' :: '*' :: _ => .error ⟨.tooManyStars, position + 2⟩
  | '*' :: '*' :: rest =>
    if before = none ∨ before = some '/' then
      match rest with
      | [] => .ok [.anyDirectories]
      | '/' :: rest => do return .anyDirectories :: (← parseFrom (position + 3) (some '/') rest)
      | _ => .error ⟨.partOfComponent, position + 2⟩
    else .error ⟨.partOfComponent, position - 1⟩
  | '*' :: rest => do return .anyText :: (← parseFrom (position + 1) (some '*') rest)
  | '[' :: rest =>
    match found : bracketPart rest with
    | none => .error ⟨.badBrackets, position⟩
    | some (part, after) =>
      have := length_bracketPart found
      do return part :: (← parseFrom (position + 1 + (rest.length - after.length)) (some ']') after)
  | character :: rest => do
    return .character character :: (← parseFrom (position + 1) (some character) rest)
termination_by text.length

/-- The pattern of a text. -/
def parse (text : String) : Except GlobError GlobPattern :=
  parseFrom 0 none text.toList

/-- Whether some end of a text passes a test. -/
def someEnd (test : List Char → Bool) : List Char → Bool
  | [] => test []
  | character :: rest => test (character :: rest) || someEnd test rest

/-- Whether what follows some slash of a text passes a test. -/
def someBelow (test : List Char → Bool) : List Char → Bool
  | [] => false
  | character :: rest => (character == '/' && test rest) || someBelow test rest

/-- Whether parts match the whole of a text. Directories that end a pattern match any text. -/
def matchParts : GlobPattern → List Char → Bool
  | [], text => text.isEmpty
  | .anyText :: parts, text => someEnd (matchParts parts) text
  | .anyDirectories :: parts, text =>
    matchParts parts text || someBelow (matchParts parts) text || matchParts parts []
  | _ :: _, [] => false
  | .character expected :: parts, character :: rest =>
    character == expected && matchParts parts rest
  | .anyCharacter :: parts, _ :: rest => matchParts parts rest
  | .among ranges :: parts, character :: rest =>
    ranges.any (·.contains character) && matchParts parts rest
  | .except ranges :: parts, character :: rest =>
    !ranges.any (·.contains character) && matchParts parts rest

/-- Whether a pattern matches a text. -/
def isMatch (pattern : GlobPattern) (text : String) : Bool :=
  matchParts pattern text.toList

end GlobPattern

end Declarations
