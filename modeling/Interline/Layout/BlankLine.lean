import Interline.Token

/-!
# Blank lines

A line is blank when it holds nothing or an indent alone. Only a line that a hard newline
ends counts as a line here: what follows the last one is not finished.
-/

namespace Interline
set_option autoImplicit false

/-- The lines that a hard newline ends, without their newlines. -/
def closedLines : List Token → List (List Token)
  | [] => []
  | .hardNewline :: ts => [] :: closedLines ts
  | t :: ts =>
    match closedLines ts with
    | [] => []
    | line :: lines => (t :: line) :: lines

def isBlankLine : List Token → Bool
  | [] | [.indent _] => true
  | _ => false

/-- No two lines in a row are blank. -/
def apart : List (List Token) → Bool
  | a :: b :: lines => !(isBlankLine a && isBlankLine b) && apart (b :: lines)
  | _ => true

/-- No two lines in a row are blank below the first line that is not. Blank lines at the top
do not count. -/
def hasSingleBlanks (ts : List Token) : Bool :=
  apart ((closedLines ts).dropWhile isBlankLine)

end Interline
