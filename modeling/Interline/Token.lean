/-!
# Tokens

The flat stream a Ruby pretty-printer emits before it writes text: fragments, line ends,
indents, comments and markers for the keywords that open or close a construct. Only the
kinds up to `conditional` take part in the blank-line rules; the rest pass through.
-/

namespace Interline
set_option autoImplicit false

inductive Token where
  /-- Ends a line. -/
  | hardNewline
  /-- Starts a line at a depth. The depth is any integer: no rule bounds it. -/
  | indent (depth : Int)
  | text (fragment : String)
  | comment (contents : String)
  | moduleWord
  | classWord
  | doWord
  | defWord
  | endWord
  /-- `if`, `elsif`, `unless` and the like. -/
  | conditional (word : String)
  | comma
  | space
  | delimiter (contents : String)
  /-- A keyword with no rule of its own. -/
  | keyword (word : String)
  | softNewline
  deriving DecidableEq, Repr

namespace Token

def isIndent : Token → Bool
  | indent _ => true
  | _ => false

def isConditional : Token → Bool
  | conditional _ => true
  | _ => false

/-- A `class` or `module` opener. -/
def opensScope : Token → Bool
  | classWord | moduleWord => true
  | _ => false

/-- Left in front of a closing delimiter when a bracketed construct that might have
spanned several lines ends up on one. -/
def isFiller : Token → Bool
  | comma | space => true
  | text fragment => fragment == ""
  | _ => false

def depth? : Token → Option Int
  | indent depth => some depth
  | _ => none

end Token

end Interline
