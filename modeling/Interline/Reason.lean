import Interline.Text.Quoted
import Interline.Text.Printable

/-!
# Reasons for a blank line

Labels for diagnostics. A reason is known by its value, a lower-case word, and by its
name, the same word in capitals; each of the two finds the reason again.
-/

namespace Interline
set_option autoImplicit false

inductive Reason where
  /-- In the label set, but no rule gives it. -/
  | comesAfterEnd
  | conditional
  | classOrModule
  | doKeyword
  | endOfRequireBlock
  | commentAfterEnd
  deriving DecidableEq, Repr

namespace Reason

/-- Every reason, in the order their positions count. -/
def all : List Reason :=
  [comesAfterEnd, conditional, classOrModule, doKeyword, endOfRequireBlock, commentAfterEnd]

def position (r : Reason) : Nat :=
  all.idxOf r

def value : Reason → String
  | comesAfterEnd => "comes_after_end"
  | conditional => "conditional"
  | classOrModule => "class_or_module"
  | doKeyword => "do_keyword"
  | endOfRequireBlock => "end_of_require_block"
  | commentAfterEnd => "comment_after_end"

def name (r : Reason) : String :=
  r.value.toUpper

/-- A word that no reason is known by. -/
inductive LookupError where
  | noSuchName (word : String)
  | noSuchValue (word : String)
  deriving DecidableEq, Repr

def LookupError.message : LookupError → String
  | noSuchName word => Text.quote Text.isPrintable word
  | noSuchValue word => Text.quote Text.isPrintable word ++ " is not a valid BlanklineReason"

def ofName (word : String) : Except LookupError Reason :=
  match all.find? (·.name == word) with
  | some r => .ok r
  | none => .error (.noSuchName word)

def ofValue (word : String) : Except LookupError Reason :=
  match all.find? (·.value == word) with
  | some r => .ok r
  | none => .error (.noSuchValue word)

end Reason

end Interline
