/-
This file holds the characters of Unicode's White_Space property: what trimming removes and
what makes a docstring line blank.
-/

import Declarations.Characters.Ranges

set_option maxRecDepth 20000

namespace Declarations.CharacterSet

/-- The blank characters, tab and no-break space included. -/
def blank : CharacterSet :=
  ⟨#[
    9, 0xe, 0x20, 0x21, 0x85, 0x86, 0xa0, 0xa1, 0x1680, 0x1681, 0x2000, 0x200b, 0x2028,
    0x202a, 0x202f, 0x2030, 0x205f, 0x2060, 0x3000, 0x3001]⟩

end Declarations.CharacterSet
