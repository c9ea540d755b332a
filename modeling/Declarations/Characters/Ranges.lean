/-
This file says how the project stores a Unicode property. The tables of the files
beside it list only the code points where membership changes, so that a property of
a hundred thousand characters is a few hundred numbers, and asking whether a
character belongs to it is one search for its place in the list.
-/

namespace Declarations

/-- A set of characters as the ascending list of the code points at which membership
changes: the first is the first member, the second the first non-member after it, and so
on. -/
structure CharacterSet where
  changes : Array Nat

namespace CharacterSet

/-- Counts the entries of `changes` that are at most `code`, given that the first `low` are
and that those from `high` on are not. -/
def place (changes : Array Nat) (code low high : Nat) : Nat :=
  if low < high then
    let middle := (low + high) / 2
    if changes.getD middle 0 ≤ code then place changes code (middle + 1) high
    else place changes code low middle
  else low
termination_by high - low

/-- A character is a member when membership has changed an odd number of times up to it. -/
def contains (set : CharacterSet) (character : Char) : Bool :=
  place set.changes character.toNat 0 set.changes.size % 2 == 1

end CharacterSet

end Declarations
