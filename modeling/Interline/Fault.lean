import Interline.Describe

/-!
# Faults

A fault is a broken contract: a shaper whose mark has gone stale or was set out of reach, or
a caller who uses a shaper out of turn. There is no recovery from one, so the state it leaves
behind is kept for inspection only.
-/

namespace Interline
set_option autoImplicit false

inductive Fault where
  /-- The mark should be the slot of a hard newline, and holds `found`. -/
  | staleMark (index : Int) (found : Option Token)
  /-- Fewer tokens than an operation needs. -/
  | bufferTooShort (length required : Int)
  /-- The tokens were handed over before. -/
  | alreadyTaken
  /-- The mark fits no machine word, so that nothing can go in there. -/
  | outOfReach
  deriving DecidableEq, Repr

def Fault.message : Fault → String
  | staleMark index found =>
    s!"Expected HardNewLine at index {index}, found {Text.orNone (found.map Token.describe)}"
  | bufferTooShort length required => s!"Buffer holds {length} tokens, at least {required} required"
  | alreadyTaken => "Intermediary tokens were already taken by into_tokens()"
  | outOfReach => "int too large to convert to C ssize_t"

end Interline
