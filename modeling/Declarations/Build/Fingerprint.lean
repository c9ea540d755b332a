/-
This file holds the fingerprints by which a build recognises what it has seen before: that
of a text, and that of a set of inputs, which does not depend on their order.
-/

import Declarations.Digest.Sha256

namespace Declarations.Fingerprint

/-- The fingerprint of a text. -/
def ofText (text : String) : String :=
  Sha256.hex text

/-- Whether one input comes before another or is the same: by its name first, then by its
fingerprint. -/
def precedes (first second : String × String) : Bool :=
  first.1 < second.1 || (first.1 == second.1 && first.2 ≤ second.2)

/-- The line that stands for an input. -/
def line (input : String × String) : String :=
  input.1 ++ ":" ++ input.2 ++ "\n"

/-- The lines of inputs, in ascending order. -/
def listing (inputs : List (String × String)) : String :=
  String.join ((inputs.mergeSort precedes).map line)

/-- The fingerprint of inputs, each a module with the fingerprint of its text. -/
def ofInputs (inputs : List (String × String)) : String :=
  Sha256.hex (listing inputs)

end Declarations.Fingerprint
