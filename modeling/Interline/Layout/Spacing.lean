import Interline.Layout.Basic
import Interline.Line
import Interline.Reason

/-!
# Spacing

The blank-line policy, told line by line over a whole layout: between two lines stands one
newline or two, and two wherever there were two or more or the lower line asks for a blank
line. `Layout.spaced` is the layout with those newlines, and `Layout.reasons` says why each
blank line that the policy asked for is there.
-/

namespace Interline
set_option autoImplicit false

/-- What the policy sees above a row. -/
structure Place where
  /-- The line above. -/
  above : List Token
  /-- The line above is the first of the stream. -/
  isFirst : Bool
  /-- How many tokens there are up to the end of the line above. -/
  written : Nat
  deriving DecidableEq, Repr

namespace Place

/-- A line that holds an indent alone is blank itself. The first line of a stream is not
known to be: no newline stands in front of it. -/
def isBlank (p : Place) : Bool :=
  !p.isFirst && match p.above with
    | [.indent _] => true
    | _ => false

/-- The reason for which `t`, written after the tokens `before` of its line, asks for a blank
line above that line. -/
def asked? (p : Place) (before : List Token) : Token → Option Reason
  | .moduleWord | .classWord =>
    if before.any fun t => deepens (Line.ofTokens p.above).depth t.depth? then none else some .classOrModule
  | .doWord => if (Line.ofTokens p.above).closesBlock then some .doKeyword else none
  | .conditional word =>
    if (Line.ofTokens p.above).closesBlock ∧ word = "if" then some .conditional else none
  | .comment _ =>
    if before = [] ∧ p.above.getLast? = some .endWord ∧ 4 ≤ p.written + 1 then some .commentAfterEnd
    else none
  | _ => none

/-- The reason of the first token that has one, where `before` are the tokens of the line
that came earlier. -/
def firstAsked? (p : Place) (before : List Token) : List Token → Option Reason
  | [] => none
  | t :: ts => (p.asked? before t).or (p.firstAsked? (before ++ [t]) ts)

/-- The reason for which a blank line goes in above a row. A row asks when one newline parts
it from a line that is not blank. A line of a `require` block asks for one below it when the
next line, which may be an empty one, ends and is not in the block: `ends` says whether the
row's line does. -/
def reason? (p : Place) (row : Row) (ends : Bool) : Option Reason :=
  let leavesRequire := (Line.ofTokens p.above).hasRequire
  if row.extra ≠ 0 then
    if leavesRequire then some .endOfRequireBlock else none
  else if p.isBlank then none
  else (p.firstAsked? [] row.line).or
    (if leavesRequire ∧ ends ∧ ¬ (Line.ofTokens row.line).hasRequire then some .endOfRequireBlock else none)

/-- The row with the newlines it gets. -/
def space (p : Place) (row : Row) (ends : Bool) : Row :=
  { row with extra := if row.extra = 0 ∧ p.reason? row ends = none then 0 else 1 }

/-- What the policy sees below a row. -/
def below (p : Place) (row : Row) : Place :=
  ⟨row.line, false, p.written + row.tokens.length⟩

/-- Each row with its newlines, and with the reason why a blank line went in, if one did. -/
def spaceAll (p : Place) : List Row → List (Row × Option Reason)
  | [] => []
  | row :: rows =>
    let ends := !rows.isEmpty
    let spaced := p.space row ends
    (spaced, p.reason? row ends) :: (p.below spaced).spaceAll rows

end Place

namespace Layout

def start (l : Layout) : Place :=
  ⟨l.first, true, l.first.length⟩

def spaced (l : Layout) : Layout :=
  { l with rows := (l.start.spaceAll l.rows).map Prod.fst }

/-- Why the policy asked for blank lines, from the top down. -/
def reasons (l : Layout) : List Reason :=
  (l.start.spaceAll l.rows).filterMap Prod.snd

end Layout

end Interline
