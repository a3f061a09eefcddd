import Interline.Shaper.Operations

/-!
# Passes

A pass sends a whole stream through a fresh shaper and takes the tokens out again.
-/

namespace Interline
set_option autoImplicit false

structure PassConfig where
  shaper : ShaperConfig := {}
  /-- Log the token counts at the end. -/
  logSummary : Bool := true
  deriving DecidableEq, Repr

/-- What a pass returns: the tokens, and a reason for each blank line it put in. -/
structure Shaped where
  tokens : List Token := []
  reasons : List Reason := []
  deriving DecidableEq, Repr

/-- A result in words, for a structured log. -/
structure Report where
  tokens : List String
  reasons : List String
  insertedCount : Nat
  deriving DecidableEq, Repr

namespace Shaped

def insertedCount (r : Shaped) : Nat :=
  r.reasons.length

def reportWith (printable : Char → Bool) (r : Shaped) : Report where
  tokens := r.tokens.map (Token.describeWith printable)
  reasons := r.reasons.map Reason.value
  insertedCount := r.insertedCount

def report (r : Shaped) : Report :=
  r.reportWith Text.isPrintable

end Shaped

namespace Shaper

def shapeAll (logSummary : Bool) (ts : List Token) : ShaperM Shaped := do
  pushAll ts
  let reasons := (← get).reasons
  let tokens ← takeTokens
  let shaped : Shaped := { tokens, reasons }
  if logSummary then modify (·.record (.passFinished ts.length tokens.length shaped.insertedCount))
  return shaped

end Shaper

/-- One pass over `ts`. The final state holds the log. -/
def shape (config : PassConfig) (ts : List Token) : EStateM.Result Fault Shaper Shaped :=
  Shaper.shapeAll config.logSummary ts { config := config.shaper }

end Interline
