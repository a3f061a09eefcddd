import Interline.Shaper.Operations

/-!
# Sessions

A session is a list of requests to one shaper. A request that ends in a fault does not end
the session: the next one finds the state that the fault left.
-/

namespace Interline
set_option autoImplicit false

inductive Request where
  | push (t : Token)
  | pushAll (ts : List Token)
  | insertBlankLine (reason : Reason)
  | clearFiller
  | lastFour
  | length
  | takeTokens
  | setMark (mark : Int)
  | configure (change : ShaperConfig.Change)
  deriving DecidableEq, Repr

inductive Reply where
  | done
  | lastFour (tokens : Option (Token × Token × Token × Token))
  | length (n : Nat)
  | tokens (ts : List Token)
  deriving DecidableEq, Repr

/-- How a request ended, and the state afterwards, whose log holds this request's entries. -/
abbrev Step := EStateM.Result Fault Shaper Reply

namespace Step

def after : Step → Shaper
  | .ok _ s | .error _ s => s

def fault? : Step → Option Fault
  | .ok _ _ => none
  | .error f _ => some f

end Step

namespace Shaper

def perform : Request → ShaperM Reply
  | .push t => do push t; return .done
  | .pushAll ts => do pushAll ts; return .done
  | .insertBlankLine reason => do insertBlankLine reason; return .done
  | .clearFiller => do clearFiller; return .done
  | .lastFour => do return .lastFour (← get).lastFour?
  | .length => do return .length (← get).buffer.length
  | .takeTokens => do return .tokens (← takeTokens)
  | .setMark mark => do modify ({ · with mark }); return .done
  | .configure change => do modify (fun s => { s with config := s.config.apply change }); return .done

/-- Answers one request, with a log of its own. -/
def answer (s : Shaper) (q : Request) : Step :=
  perform q { s with log := [] }

/-- Answers the requests in order. -/
def answerAll (s : Shaper) : List Request → List Step
  | [] => []
  | q :: qs =>
    let step := s.answer q
    step :: step.after.answerAll qs

/-- The state after the requests. -/
def runAll (s : Shaper) (qs : List Request) : Shaper :=
  qs.foldl (fun s q => (s.answer q).after) s

end Shaper

end Interline
