import Interline.Proofs.Shaper.Filler

/-!
# What the settings change

The settings decide which checks are made and which entries are logged, and nothing that is written.
`Shaper.within` takes a shaper under a limit: what the limit switches off is off, and the entries that
would not have been logged are gone. Each operation does the same under the limit and without it, until
a check that the limit switches off fails (`Follows`).
-/

namespace Interline
set_option autoImplicit false

/-- The entry for a blank line that went in. -/
def Event.isInsertion : Event → Bool
  | blankLineInserted .. => true
  | _ => false

/-- The fault comes from a check that the settings switch on. -/
def Fault.isFromCheck : Fault → Bool
  | staleMark .. | bufferTooShort .. => true
  | alreadyTaken | outOfReach => false

/-- The entry is logged under the limit. -/
def ShaperConfig.keeps (limit : ShaperConfig) (e : Event) : Bool :=
  limit.logBlankLines || !e.isInsertion

/-- What the limit switches off is off. -/
def ShaperConfig.within (limit config : ShaperConfig) : ShaperConfig where
  checkMark := config.checkMark && limit.checkMark
  logBlankLines := config.logBlankLines && limit.logBlankLines

namespace Shaper

def within (limit : ShaperConfig) (s : Shaper) : Shaper :=
  { s with config := limit.within s.config, log := s.log.filter limit.keeps }

variable (limit : ShaperConfig) (s : Shaper)

/-! ## Updates -/

theorem note_within (t : Token) : (s.within limit).note t = (s.note t).within limit := rfl

theorem due_within (t : Token) : (s.within limit).due? t = s.due? t := rfl

theorem blankAtMark_within : (s.within limit).blankAtMark = s.blankAtMark := rfl

theorem inReach_within : (s.within limit).inReach = s.inReach := rfl

theorem staleMark_within : (s.within limit).staleMark? = if limit.checkMark then s.staleMark? else none := by
  have slot (index : Int) : (s.within limit).slot? index = s.slot? index := rfl
  have mark : (s.within limit).mark = s.mark := rfl
  have config : (s.within limit).config.checkMark = (s.config.checkMark && limit.checkMark) := rfl
  rw [staleMark?, staleMark?, slot, mark, config]
  cases limit.checkMark <;> simp

theorem isFromCheck_of_staleMark {s : Shaper} {fault : Fault} (stale : s.staleMark? = some fault) :
    fault.isFromCheck = true := by
  unfold staleMark? at stale
  split at stale
  · cases stale
    rfl
  · cases stale

theorem announce_within (r : Reason) : (s.within limit).announce r = (s.announce r).within limit := by
  have logged : List.filter limit.keeps (if s.config.logBlankLines then [.blankLineInserted s.mark r] else []) =
      if (s.config.logBlankLines && limit.logBlankLines) then [.blankLineInserted s.mark r] else [] := by
    cases s.config.logBlankLines <;> cases logs : limit.logBlankLines <;>
      simp [ShaperConfig.keeps, Event.isInsertion, logs]
  rw [announce_eq, announce_eq]
  simp only [within, ShaperConfig.within, List.filter_append, logged]
  rfl

theorem addBlankLine_within (r : Reason) : (s.within limit).addBlankLine r = (s.addBlankLine r).within limit := by
  rw [addBlankLine, announce_within]
  rfl

theorem endLine_within : (s.within limit).endLine = s.endLine.within limit := by
  have kept : [Event.newlineSuppressed s.buffer.length].filter limit.keeps = [.newlineSuppressed s.buffer.length] := by
    simp [ShaperConfig.keeps, Event.isInsertion]
  have buffer : (s.within limit).buffer = s.buffer := rfl
  rw [endLine_eq, endLine_eq, buffer]
  split
  · simp only [within, List.filter_append, kept]
  · rfl

theorem write_within (t : Token) : (s.within limit).write t = (s.write t).within limit := by
  cases t with
  | hardNewline => exact endLine_within limit s
  | _ => rfl

theorem dropFiller_within : (s.within limit).dropFiller = s.dropFiller.within limit := by
  have buffer : (s.within limit).buffer = s.buffer := rfl
  unfold dropFiller
  rw [buffer]
  cases s.buffer.reverse <;> rfl

/-! ## Operations -/

/-- The second outcome is the first one under the limit, unless the first is the fault of a check that
the limit switches off. -/
inductive Follows {α : Type} (limit : ShaperConfig) :
    EStateM.Result Fault Shaper α → EStateM.Result Fault Shaper α → Prop where
  | ok (a : α) (s : Shaper) : Follows limit (.ok a s) (.ok a (s.within limit))
  | error (fault : Fault) (s : Shaper) : Follows limit (.error fault s) (.error fault (s.within limit))
  | checked (off : limit.checkMark = false) (fault : Fault) (fromCheck : fault.isFromCheck = true) (s : Shaper)
      (outcome : EStateM.Result Fault Shaper α) : Follows limit (.error fault s) outcome

/-- A program follows when its first operation does and what comes after it does from any state. -/
theorem Follows.bind {α β : Type} {limit : ShaperConfig} {first : ShaperM α} {rest : α → ShaperM β} {s s' : Shaper}
    (begins : Follows limit (first s) (first s'))
    (goesOn : ∀ a s, Follows limit (rest a s) (rest a (s.within limit))) :
    Follows limit ((first >>= rest) s) ((first >>= rest) s') := by
  rw [bind_eq, bind_eq]
  generalize first s = outcome, first s' = outcome' at begins
  cases begins with
  | ok a s => exact goesOn a s
  | error fault s => exact .error fault s
  | checked off fault fromCheck s => exact .checked off fault fromCheck s _

theorem requireMark_follows : Follows limit (requireMark s) (requireMark (s.within limit)) := by
  rw [requireMark_eq, requireMark_eq, staleMark_within]
  cases stale : s.staleMark? with
  | none => cases limit.checkMark <;> exact .ok () s
  | some fault =>
    cases checks : limit.checkMark with
    | true => exact .error fault s
    | false => exact .checked checks fault (isFromCheck_of_staleMark stale) s _

theorem insertBlankLine_follows (r : Reason) :
    Follows limit (insertBlankLine r s) (insertBlankLine r (s.within limit)) := by
  rw [insertBlankLine_eq, insertBlankLine_eq, blankAtMark_within, inReach_within, addBlankLine_within, announce_within]
  split
  · exact .ok () s
  · split
    · exact requireMark_follows limit (s.addBlankLine r)
    · exact .error .outOfReach (s.announce r)

theorem insertDue_follows (t : Token) : Follows limit (insertDue t s) (insertDue t (s.within limit)) := by
  rw [insertDue, insertDue, due_within]
  cases s.due? t with
  | none => exact .ok () s
  | some r => exact insertBlankLine_follows limit s r

/-- **A push** under the limit. -/
theorem push_follows (t : Token) : Follows limit (push t s) (push t (s.within limit)) := by
  have taken : (s.within limit).taken = s.taken := rfl
  rw [push_eq, push_eq, taken]
  split
  · exact .error .alreadyTaken s
  · rw [staleMark_within]
    cases stale : s.staleMark? with
    | some fault =>
      cases checks : limit.checkMark with
      | true => exact .error fault s
      | false => exact .checked checks fault (isFromCheck_of_staleMark stale) s _
    | none =>
      rw [ite_self, note_within]
      have due := insertDue_follows limit (s.note t) t
      generalize insertDue t (s.note t) = inserted, insertDue t ((s.note t).within limit) = inserted' at due
      cases due with
      | ok done s' =>
        show Follows limit (requireMark (s'.write t)) (requireMark ((s'.within limit).write t))
        rw [write_within]
        exact requireMark_follows limit (s'.write t)
      | error fault s' => exact .error fault s'
      | checked off fault fromCheck s' => exact .checked off fault fromCheck s' _

theorem pushAll_follows (ts : List Token) : Follows limit (pushAll ts s) (pushAll ts (s.within limit)) := by
  induction ts generalizing s with
  | nil => exact .ok () s
  | cons t ts ih => exact (push_follows limit s t).bind fun _ s => ih s

theorem clearFiller_follows : Follows limit (clearFiller s) (clearFiller (s.within limit)) := by
  have taken : (s.within limit).taken = s.taken := rfl
  have buffer : (s.within limit).buffer = s.buffer := rfl
  have checks : (s.within limit).config.checkMark = (s.config.checkMark && limit.checkMark) := rfl
  rw [clearFiller_eq, clearFiller_eq, taken, buffer, checks, dropFiller_within]
  split
  · exact .error .alreadyTaken s
  · by_cases short : s.config.checkMark = true ∧ s.buffer.length < 2
    · rw [if_pos short, short.1, Bool.true_and]
      cases off : limit.checkMark with
      | true =>
        rw [if_pos ⟨rfl, short.2⟩]
        exact .error _ s
      | false => exact .checked off _ rfl s _
    · rw [if_neg short, if_neg fun both => short ⟨(Bool.and_eq_true_iff.1 both.1).1, both.2⟩]
      exact requireMark_follows limit s.dropFiller

theorem takeTokens_follows : Follows limit (takeTokens s) (takeTokens (s.within limit)) := by
  have taken : (s.within limit).taken = s.taken := rfl
  rw [takeTokens_eq, takeTokens_eq, taken]
  split
  · exact .error .alreadyTaken s
  · exact .ok s.buffer { s with buffer := [], taken := true }

end Shaper

end Interline
