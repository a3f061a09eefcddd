import Interline.Proofs.Shaper.Mark

/-!
# A request for a blank line, wherever the mark is

At a slot that holds a newline a request puts a blank line in or finds one, and either way a blank line
is there afterwards (`insertBlankLine_of_newline`, `blankAtMark_addBlankLine`). At any other slot that is
not negative no blank line is ever found, and what stands there moves on with the mark, so that the check
of the mark reports it (`insertBlankLine_of_other`). Out of reach the request only leaves an entry in the log
(`insertBlankLine_of_far`).
-/

namespace Interline.Shaper
set_option autoImplicit false

variable {s : Shaper}

/-- A blank line at a token goes in at the mark. -/
theorem slot_addBlankLine {t : Token} (held : s.slot? s.mark = some t) (r : Reason) :
    (s.addBlankLine r).slot? s.mark = some .hardNewline := by
  obtain ⟨front, back, buffer, mark⟩ := split_of_slot held
  rw [mark, slot_natCast, addBlankLine_buffer buffer mark, List.getElem?_append_right (Nat.le_refl _)]
  simp

/-- What stands at the mark, or that nothing does, moves on with it. -/
theorem slot_addBlankLine_next (inside : 0 ≤ s.mark) (r : Reason) :
    (s.addBlankLine r).slot? (s.mark + 1) = s.slot? s.mark := by
  cases held : s.slot? s.mark with
  | some t =>
    obtain ⟨front, back, buffer, mark⟩ := split_of_slot held
    have next : s.mark + 1 = (front.length + 1 : Nat) := by omega
    rw [next, slot_natCast, addBlankLine_buffer buffer mark, List.getElem?_append_right (by omega)]
    simp
  | none =>
    -- Past the end the newline is appended, so that the mark is past the end of the longer buffer again.
    rw [slot?, if_pos inside, List.getElem?_eq_none_iff] at held
    rw [slot?, if_pos (by omega), List.getElem?_eq_none_iff, length_addBlankLine]
    omega

/-! ## At a newline -/

theorem slot_addBlankLine_mark (newline : s.slot? s.mark = some .hardNewline) (r : Reason) :
    (s.addBlankLine r).slot? (s.addBlankLine r).mark = some .hardNewline := by
  obtain ⟨front, back, -, mark⟩ := split_of_slot newline
  exact (slot_addBlankLine_next (by omega) r).trans newline

/-- A blank line that went in at a newline is found by the next request. -/
theorem blankAtMark_addBlankLine (newline : s.slot? s.mark = some .hardNewline) (r : Reason) :
    (s.addBlankLine r).blankAtMark = true := by
  have above : (s.addBlankLine r).mark - 1 = s.mark := by
    show s.mark + 1 - 1 = s.mark
    omega
  rw [blankAtMark, slot_addBlankLine_mark newline, above, slot_addBlankLine newline]
  rfl

theorem blankAtMark_iff (newline : s.slot? s.mark = some .hardNewline) : s.blankAtMark = true ↔
    s.slot? (s.mark - 1) = some .hardNewline ∨
      s.slot? (s.mark - 2) = some .hardNewline ∧ ∃ depth, s.slot? (s.mark - 1) = some (.indent depth) := by
  have indent : (s.slot? (s.mark - 1)).any Token.isIndent = true ↔ ∃ depth, s.slot? (s.mark - 1) = some (.indent depth) := by
    cases s.slot? (s.mark - 1) with
    | none => simp
    | some t => cases t <;> simp [Token.isIndent]
  rw [blankAtMark, newline]
  simp [indent]

/-- **At a newline** a request does not fail. -/
theorem insertBlankLine_of_newline (newline : s.slot? s.mark = some .hardNewline) (r : Reason) :
    insertBlankLine r s = .ok () (if s.blankAtMark then s else s.addBlankLine r) := by
  rw [insertBlankLine_eq]
  cases s.blankAtMark with
  | true => rfl
  | false =>
    simp only [Bool.false_eq_true, if_false, inReach_of_slot newline, if_true]
    exact requireMark_of_none (staleMark_of_newline (slot_addBlankLine_mark newline r))

/-! ## At another slot -/

theorem blankAtMark_of_other (other : s.slot? s.mark ≠ some .hardNewline) : s.blankAtMark = false := by
  rw [blankAtMark, beq_eq_false_iff_ne.2 other, Bool.false_and]

/-- **At no newline** a request puts its blank line in, and the check of the mark fails. -/
theorem insertBlankLine_of_other (inside : 0 ≤ s.mark) (near : s.inReach = true)
    (other : s.slot? s.mark ≠ some .hardNewline) (r : Reason) :
    insertBlankLine r s = if s.config.checkMark then .error (.staleMark (s.mark + 1) (s.slot? s.mark)) (s.addBlankLine r)
      else .ok () (s.addBlankLine r) := by
  have slot : (s.addBlankLine r).slot? (s.mark + 1) = s.slot? s.mark := slot_addBlankLine_next inside r
  have mark : (s.addBlankLine r).mark = s.mark + 1 := rfl
  have moved : s.mark + 1 ≠ 0 := by omega
  rw [insertBlankLine_eq, blankAtMark_of_other other, near, requireMark_eq, staleMark?, mark, slot,
    (s.addBlankLine_frame r).1]
  cases s.config.checkMark <;> simp [moved, other]

theorem blankAtMark_of_far (far : s.inReach = false) : s.blankAtMark = false := by
  apply blankAtMark_of_other
  intro newline
  rw [inReach_of_slot newline] at far
  cases far

/-- **Out of reach** a request puts nothing in, and fails whether the mark is checked or not. -/
theorem insertBlankLine_of_far (far : s.inReach = false) (r : Reason) :
    insertBlankLine r s = .error .outOfReach (s.announce r) := by
  rw [insertBlankLine_eq, blankAtMark_of_far far, far]
  rfl

end Interline.Shaper
