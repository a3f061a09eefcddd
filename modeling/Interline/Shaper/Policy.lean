import Interline.Shaper.Basic

/-!
# When a blank line is due

A token about to be written may ask for a blank line above the line it stands in. The
answer depends on the facts of the line before, and for a comment on the last tokens.
-/

namespace Interline.Shaper
set_option autoImplicit false

/-- The reason for which `t` asks for a blank line at the mark, if it does. -/
def due? (s : Shaper) : Token → Option Reason
  -- The line that ends here stands below a line that required a file, and requires none.
  | .hardNewline =>
    if s.previous.any (·.hasRequire) ∧ ¬ s.current.hasRequire then some .endOfRequireBlock else none
  -- The first statement of a block stays next to the line that opened the block.
  | .moduleWord | .classWord =>
    if s.previous.any (!·.opensBlock) then some .classOrModule else none
  | .doWord => if s.previous.any (·.closesBlock) then some .doKeyword else none
  -- A fresh `if` only: `elsif`, `unless` and the others continue what stands above.
  | .conditional word =>
    if s.previous.any (·.closesBlock) ∧ word = "if" then some .conditional else none
  | .comment _ =>
    if 4 ≤ s.buffer.length ∧ [.endWord, .hardNewline] <:+ s.buffer then some .commentAfterEnd else none
  | _ => none

end Interline.Shaper
