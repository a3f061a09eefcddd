import Interline.Fault
import Interline.Shaper.Policy

/-!
# Operations on a shaper

An operation runs in `ShaperM`. It may end in a `Fault`, and what it had changed before
stays changed: a blank line that went in to the wrong place is still there when the check
of the mark finds out.
-/

namespace Interline
set_option autoImplicit false

abbrev ShaperM := EStateM Fault Shaper

namespace Shaper

/-- The fault of a mark that is not the slot of a hard newline. A mark of `0` passes: it
also stands for "no line has ended". -/
def staleMark? (s : Shaper) : Option Fault :=
  if s.config.checkMark ∧ s.mark ≠ 0 ∧ s.slot? s.mark ≠ some .hardNewline then
    some (.staleMark s.mark (s.slot? s.mark))
  else none

def requireMark : ShaperM Unit := do
  if let some fault := (← get).staleMark? then throw fault

def requireUntaken : ShaperM Unit := do
  if (← get).taken then throw .alreadyTaken

/-- A blank line that cannot go in has its entry in the log nevertheless. -/
def requireReach (r : Reason) : ShaperM Unit := do
  unless (← get).inReach do
    modify (·.announce r)
    throw .outOfReach

/-- Puts a blank line above the current line, unless one is there. -/
def insertBlankLine (r : Reason) : ShaperM Unit := do
  unless (← get).blankAtMark do
    requireReach r
    modify (·.addBlankLine r)
    requireMark

/-- Writes a token, after the blank line that it asks for. -/
def push (t : Token) : ShaperM Unit := do
  requireUntaken
  requireMark
  modify (·.note t)
  if let some r := (← get).due? t then insertBlankLine r
  modify (·.write t)
  requireMark

def pushAll : List Token → ShaperM Unit
  | [] => pure ()
  | t :: ts => do
    push t
    pushAll ts

/-- Removes what a collapsed construct left in front of its closing delimiter, which is
the last token. -/
def clearFiller : ShaperM Unit := do
  requireUntaken
  let s ← get
  if s.config.checkMark ∧ s.buffer.length < 2 then throw (.bufferTooShort s.buffer.length 2)
  set s.dropFiller
  requireMark

/-- Hands over the tokens. Everything but the buffer stays for inspection. -/
def takeTokens : ShaperM (List Token) := do
  requireUntaken
  modifyGet fun s => (s.buffer, { s with buffer := [], taken := true })

end Shaper

end Interline
