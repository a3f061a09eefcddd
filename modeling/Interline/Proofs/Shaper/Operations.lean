import Interline.Pass

/-!
# Operations as equations

Each operation is a chain of updates with a check of the mark between them. The equations
here say what an operation does to any state, so that nothing after this file opens the
monad. `Shaper.advance` is a push in which no check fails, as a plain update.
-/

namespace Interline.Shaper
set_option autoImplicit false

/-- A program that goes on after an operation starts from the state the operation left. -/
theorem bind_eq {α β : Type} (first : ShaperM α) (rest : α → ShaperM β) (s : Shaper) :
    (first >>= rest) s = match first s with
      | .ok a s' => rest a s'
      | .error fault s' => .error fault s' := by
  simp only [bind, EStateM.bind]
  cases first s <;> rfl

theorem get_bind_eq {α : Type} (rest : Shaper → ShaperM α) (s : Shaper) : (get >>= rest) s = rest s s :=
  rfl

theorem modify_bind_eq {α : Type} (f : Shaper → Shaper) (rest : Unit → ShaperM α) (s : Shaper) :
    (modify f >>= rest) s = rest () (f s) :=
  rfl

theorem requireUntaken_eq (s : Shaper) :
    requireUntaken s = if s.taken then .error .alreadyTaken s else .ok () s := by
  rw [requireUntaken, get_bind_eq]
  cases s.taken <;> rfl

theorem requireMark_eq (s : Shaper) :
    requireMark s = match s.staleMark? with
      | some fault => .error fault s
      | none => .ok () s := by
  rw [requireMark, get_bind_eq]
  cases s.staleMark? <;> rfl

theorem requireMark_of_none {s : Shaper} (fresh : s.staleMark? = none) : requireMark s = .ok () s := by
  rw [requireMark_eq, fresh]

theorem requireReach_eq (r : Reason) (s : Shaper) :
    requireReach r s = if s.inReach then .ok () s else .error .outOfReach (s.announce r) := by
  rw [requireReach, get_bind_eq]
  cases s.inReach <;> rfl

theorem insertBlankLine_eq (r : Reason) (s : Shaper) :
    insertBlankLine r s = if s.blankAtMark then .ok () s
      else if s.inReach then requireMark (s.addBlankLine r)
      else .error .outOfReach (s.announce r) := by
  rw [insertBlankLine, get_bind_eq]
  cases s.blankAtMark with
  | true => rfl
  | false =>
    simp only [Bool.false_eq_true, if_false]
    rw [bind_eq, requireReach_eq]
    cases s.inReach <;> rfl

/-- The blank line that `t` asks for goes in, with the check that follows an insertion. -/
def insertDue (t : Token) (s : Shaper) : EStateM.Result Fault Shaper Unit :=
  match s.due? t with
  | some r => insertBlankLine r s
  | none => .ok () s

/-- A push without the check of the mark at its end. -/
def pushUnchecked (t : Token) : ShaperM Unit := do
  requireUntaken
  requireMark
  modify (·.note t)
  if let some r := (← get).due? t then insertBlankLine r
  modify (·.write t)

theorem pushUnchecked_eq (t : Token) (s : Shaper) :
    pushUnchecked t s = if s.taken then .error .alreadyTaken s else
      match s.staleMark? with
      | some fault => .error fault s
      | none => match insertDue t (s.note t) with
        | .ok () s' => .ok () (s'.write t)
        | .error fault s' => .error fault s' := by
  rw [pushUnchecked, bind_eq, requireUntaken_eq]
  cases s.taken with
  | true => rfl
  | false =>
    simp only [Bool.false_eq_true, if_false]
    rw [bind_eq, requireMark_eq]
    cases s.staleMark? with
    | some fault => rfl
    | none =>
      simp only
      rw [modify_bind_eq, get_bind_eq, insertDue]
      cases (s.note t).due? t with
      | none => rfl
      | some r =>
        simp only
        rw [bind_eq]
        cases insertBlankLine r (s.note t) <;> rfl

theorem push_eq (t : Token) (s : Shaper) :
    push t s = if s.taken then .error .alreadyTaken s else
      match s.staleMark? with
      | some fault => .error fault s
      | none => match insertDue t (s.note t) with
        | .ok () s' => requireMark (s'.write t)
        | .error fault s' => .error fault s' := by
  have whole : push t = (pushUnchecked t >>= fun _ => requireMark) := by
    simp only [push, pushUnchecked, bind_assoc]
    refine bind_congr fun _ => bind_congr fun _ => bind_congr fun _ => bind_congr fun noted => ?_
    cases noted.due? t <;> simp only [bind_assoc]
  rw [whole, bind_eq, pushUnchecked_eq]
  cases s.taken with
  | true => rfl
  | false =>
    cases s.staleMark? with
    | some fault => rfl
    | none => cases insertDue t (s.note t) <;> rfl

theorem pushAll_cons_eq (t : Token) (ts : List Token) (s : Shaper) :
    pushAll (t :: ts) s = match push t s with
      | .ok () s' => pushAll ts s'
      | .error fault s' => .error fault s' := by
  rw [pushAll, bind_eq]
  cases push t s <;> rfl

theorem clearFiller_eq (s : Shaper) :
    clearFiller s = if s.taken then .error .alreadyTaken s
      else if s.config.checkMark ∧ s.buffer.length < 2 then .error (.bufferTooShort s.buffer.length 2) s
      else requireMark s.dropFiller := by
  rw [clearFiller, bind_eq, requireUntaken_eq]
  cases s.taken with
  | true => rfl
  | false =>
    simp only [Bool.false_eq_true, if_false]
    rw [get_bind_eq]
    split <;> rfl

theorem takeTokens_eq (s : Shaper) :
    takeTokens s = if s.taken then .error .alreadyTaken s
      else .ok s.buffer { s with buffer := [], taken := true } := by
  rw [takeTokens, bind_eq, requireUntaken_eq]
  cases s.taken <;> rfl

/-! ## Pushes without a fault -/

/-- The blank line that `t` asks for is there. -/
def makeRoom (s : Shaper) (t : Token) : Shaper :=
  match s.due? t with
  | some r => if s.blankAtMark then s else s.addBlankLine r
  | none => s

/-- `t` is written, after the blank line that it asks for. -/
def advance (s : Shaper) (t : Token) : Shaper :=
  ((s.note t).makeRoom t).write t

/-- A push does what `advance` does when the mark is in reach and passes each of its three checks. -/
theorem push_eq_advance {s : Shaper} {t : Token} (untaken : s.taken = false) (near : s.inReach = true)
    (before : s.staleMark? = none) (between : ((s.note t).makeRoom t).staleMark? = none)
    (after : (s.advance t).staleMark? = none) : push t s = .ok () (s.advance t) := by
  have inserted : insertDue t (s.note t) = .ok () ((s.note t).makeRoom t) := by
    revert between
    unfold insertDue makeRoom
    cases (s.note t).due? t with
    | none => exact fun _ => rfl
    | some r =>
      intro between
      have noted : (s.note t).inReach = true := near
      simp only at between ⊢
      rw [insertBlankLine_eq, noted]
      split
      next => rfl
      next missing =>
        rw [if_neg missing] at between
        exact requireMark_of_none between
  rw [push_eq, untaken, before, inserted]
  exact requireMark_of_none after

end Interline.Shaper
