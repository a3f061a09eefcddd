import Interline.Line
import Interline.Reason
import Interline.Event

/-!
# The state of a shaper

A shaper holds the tokens written so far, the facts of the line being written and of the
line before it, and the *mark*: the slot of the hard newline that ended the line before.
The mark is a plain integer because a caller may set it to anything; a slot outside the
buffer reads as absent. The updates in this file never fail. They are the pieces of which
`Interline.Shaper.Operations` makes the checked operations.
-/

namespace Interline
set_option autoImplicit false

structure ShaperConfig where
  /-- Check the mark around each operation that moves tokens. -/
  checkMark : Bool := true
  /-- Log each inserted blank line. -/
  logBlankLines : Bool := true
  deriving DecidableEq, Repr

/-- New values for some of the settings. -/
structure ShaperConfig.Change where
  checkMark : Option Bool := none
  logBlankLines : Option Bool := none
  deriving DecidableEq, Repr

def ShaperConfig.apply (config : ShaperConfig) (change : Change) : ShaperConfig where
  checkMark := change.checkMark.getD config.checkMark
  logBlankLines := change.logBlankLines.getD config.logBlankLines

structure Shaper where
  config : ShaperConfig := {}
  buffer : List Token := []
  /-- The slot of the last line's hard newline; `0` also while no line has ended. -/
  mark : Int := 0
  current : Line := {}
  /-- The line before the current one, if any has ended. -/
  previous : Option Line := none
  /-- Why each inserted blank line is there, oldest first. -/
  reasons : List Reason := []
  /-- The buffer was handed over. -/
  taken : Bool := false
  log : List Event := []
  deriving DecidableEq, Repr

/-- The place before which an insertion at `index` goes: past the end appends, and a
negative index counts from the end. An index that fits no machine word is refused before
(`Shaper.inReach`). -/
def insertionPoint (length : Nat) (index : Int) : Nat :=
  if 0 ≤ index then min index.toNat length else (length + index).toNat

/-- One past the last index that fits a machine word. -/
def wordEnd : Int := 0x8000000000000000

namespace Shaper

def slot? (s : Shaper) (index : Int) : Option Token :=
  if 0 ≤ index then s.buffer[index.toNat]? else none

def record (s : Shaper) (e : Event) : Shaper :=
  { s with log := s.log ++ [e] }

/-- The four most recent tokens, oldest first. -/
def lastFour? (s : Shaper) : Option (Token × Token × Token × Token) :=
  match s.buffer.drop (s.buffer.length - 4) with
  | [a, b, c, d] => some (a, b, c, d)
  | _ => none

/-- The line before the mark is blank already: nothing stands between its newline and the
one before, or an indent alone. -/
def blankAtMark (s : Shaper) : Bool :=
  s.slot? s.mark == some .hardNewline &&
    (s.slot? (s.mark - 1) == some .hardNewline ||
      (s.slot? (s.mark - 2) == some .hardNewline && (s.slot? (s.mark - 1)).any Token.isIndent))

/-- An insertion takes the mark for an index: it fits a machine word. The places in a buffer always do,
because memory ends long before the words. -/
def inReach (s : Shaper) : Bool :=
  -wordEnd ≤ s.mark ∧ (s.mark < wordEnd ∨ s.mark ≤ s.buffer.length)

/-- The entry for a blank line at the mark, which is written before the blank line goes in. -/
def announce (s : Shaper) (r : Reason) : Shaper :=
  if s.config.logBlankLines then s.record (.blankLineInserted s.mark r) else s

/-- A hard newline goes in at the mark, and the mark moves past it. -/
def addBlankLine (s : Shaper) (r : Reason) : Shaper :=
  let point := insertionPoint s.buffer.length s.mark
  { s.announce r with
    buffer := s.buffer.take point ++ .hardNewline :: s.buffer.drop point
    mark := s.mark + 1
    reasons := s.reasons ++ [r] }

/-- The facts told by a token that is about to be written. An indent tells about the line
before as well: that it opens a block, if the indent is deeper. -/
def note (s : Shaper) (t : Token) : Shaper :=
  let current := s.current.read (s.buffer.getLast?.any Token.isIndent) t
  let opens (above : Line) : Bool := t.isIndent && current.isDeeperThan above
  { s with
    current
    previous := s.previous.map fun above => if opens above then above.learn .opensBlock else above }

/-- Ends the current line. Its newline is dropped where it would be the third in a row. -/
def endLine (s : Shaper) : Shaper :=
  let ended := { s with current := {}, previous := some s.current }
  if [.hardNewline, .hardNewline] <:+ s.buffer then
    { ended with mark := s.buffer.length - 1 }.record (.newlineSuppressed s.buffer.length)
  else
    { ended with mark := s.buffer.length, buffer := s.buffer ++ [.hardNewline] }

def write (s : Shaper) : Token → Shaper
  | .hardNewline => s.endLine
  | t => { s with buffer := s.buffer ++ [t] }

/-- Removes the run of filler in front of the last token. -/
def dropFiller (s : Shaper) : Shaper :=
  match s.buffer.reverse with
  | [] => s
  | last :: rest => { s with buffer := (rest.dropWhile Token.isFiller).reverse ++ [last] }

end Shaper

end Interline
