import Interline.Reason

/-!
# Log entries

What a shaper reports while it works. An entry is data; its wording is `Event.message`.
-/

namespace Interline
set_option autoImplicit false

inductive Event where
  /-- A blank line is to go in before the token at `index`. -/
  | blankLineInserted (index : Int) (reason : Reason)
  /-- A newline was dropped: the `length` tokens so far end in a blank line. -/
  | newlineSuppressed (length : Nat)
  /-- A pass over `read` tokens is over. -/
  | passFinished (read written inserted : Nat)
  deriving DecidableEq, Repr

inductive Level where
  | debug
  | info
  deriving DecidableEq, Repr

namespace Event

def level : Event → Level
  | blankLineInserted .. | newlineSuppressed _ => .debug
  | passFinished .. => .info

def message : Event → String
  | blankLineInserted index reason => s!"Inserting blank line at {index}: {reason.name}"
  | newlineSuppressed length => s!"Suppressing newline at {length}, blank line already present"
  | passFinished read written inserted =>
    s!"Shaped {read} tokens into {written}, {inserted} blank lines inserted"

end Event

end Interline
