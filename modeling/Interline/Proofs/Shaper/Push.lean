import Interline.Proofs.Shaper.Content
import Interline.Proofs.Shaper.Insertion

/-!
# Pushes that fail

Where a push fails on any shaper that checks its mark, and what it has changed by then. Handed-over
tokens and a stale mark are found before anything changes. With the mark at a newline nothing fails. At
the top, where no newline stands, a blank line that is due goes in above everything and the check after
it fails, so that the token is not written. The check at the end finds nothing (`push_eq_pushUnchecked`).
-/

namespace Interline.Shaper
set_option autoImplicit false

variable {s : Shaper} {t : Token}

/-- What a token tells about the lines does not change what it asks for. -/
theorem due_note (s : Shaper) (t : Token) : (s.note t).due? t = s.due? t := by
  have previous (quiet : t.isIndent = false) : (s.note t).previous = s.previous := by
    simp [note, quiet]
  cases t with
  | hardNewline => rw [note_newline]
  | moduleWord | classWord | doWord | conditional word => simp only [due?, previous rfl]
  | _ => rfl

/-- A token that asks for a blank line tells about its own line only. -/
theorem note_of_due {r : Reason} (due : s.due? t = some r) :
    s.note t = { s with current := s.current.read (s.buffer.getLast?.any Token.isIndent) t } := by
  cases t with
  | indent depth => cases due
  | _ => simp [note, Token.isIndent]

theorem insertDue_of_newline (newline : s.slot? s.mark = some .hardNewline) (t : Token) :
    insertDue t s = .ok () (s.makeRoom t) := by
  unfold insertDue makeRoom
  cases s.due? t with
  | none => rfl
  | some r => exact insertBlankLine_of_newline newline r

/-- The blank line that a token asks for leaves the mark at a newline. -/
theorem slot_makeRoom (newline : s.slot? s.mark = some .hardNewline) (t : Token) :
    (s.makeRoom t).slot? (s.makeRoom t).mark = some .hardNewline := by
  rcases s.makeRoom_cases t with same | ⟨r, -, -, added⟩
  · rw [same]
    exact newline
  · rw [added]
    exact slot_addBlankLine_mark newline r

/-- **With the mark at a newline** no check fails. -/
theorem push_of_newline (untaken : s.taken = false) (newline : s.slot? s.mark = some .hardNewline) (t : Token) :
    push t s = .ok () (s.advance t) ∧ (s.advance t).staleMark? = none := by
  have noted : (s.note t).slot? (s.note t).mark = some .hardNewline := newline
  have fresh : (s.advance t).staleMark? = none :=
    staleMark_write (staleMark_of_newline (slot_makeRoom noted t)) t
  refine ⟨?_, fresh⟩
  rw [push_eq, untaken, staleMark_of_newline newline, insertDue_of_newline noted]
  exact requireMark_of_none fresh

/-- **At the top** a push fails where it asks for a blank line, and nowhere else. -/
theorem push_of_top (checks : s.config.checkMark = true) (untaken : s.taken = false) (top : s.mark = 0)
    (other : s.slot? 0 ≠ some .hardNewline) :
    push t s = match s.due? t with
      | some r => .error (.staleMark 1 (s.slot? 0)) ((s.note t).addBlankLine r)
      | none => .ok () ((s.note t).write t) := by
  have fresh : s.staleMark? = none := by
    rw [staleMark_eq_none_iff]
    exact fun _ moved => absurd top moved
  have due : insertDue t (s.note t) = match s.due? t with
      | some r => .error (.staleMark 1 (s.slot? 0)) ((s.note t).addBlankLine r)
      | none => .ok () (s.note t) := by
    rw [insertDue, due_note]
    cases s.due? t with
    | none => rfl
    | some r =>
      have inside : 0 ≤ (s.note t).mark := Int.le_of_eq top.symm
      have near : (s.note t).inReach = true := inReach_of_inside inside (by rw [note_mark, top]; omega)
      have slot : (s.note t).slot? (s.note t).mark = s.slot? 0 := congrArg s.slot? top
      have mark : (s.note t).mark + 1 = 1 := congrArg (· + 1) top
      simp only
      rw [insertBlankLine_of_other inside near (slot ▸ other), slot, mark]
      exact if_pos checks
  rw [push_eq, untaken, fresh, due]
  cases s.due? t with
  | some r => rfl
  | none =>
    have noted : (s.note t).staleMark? = none := fresh
    exact requireMark_of_none (staleMark_write noted t)

/-- The check at the end of a push finds nothing. -/
theorem push_eq_pushUnchecked (t : Token) (s : Shaper) : push t s = pushUnchecked t s := by
  rw [push_eq, pushUnchecked_eq]
  cases stale : s.staleMark? with
  | some fault => rfl
  | none =>
    -- A mark that passed the first check is still good where the blank line went in without a fault, and
    -- the token goes below it.
    obtain ⟨added, room, -, ⟨fault, failed⟩ | ⟨done, fresh⟩⟩ := mayInsert_insertDue t (s.note t)
    · rw [failed]
    · rw [done]
      simp only
      rw [requireMark_of_none (staleMark_write (fresh stale) t)]

/-- **How a push ends** on a shaper that checks its mark, in whatever state. Handed over, or with a mark
other than `0` that is not at a newline, it fails and changes nothing. With the mark at a newline it does
not fail, and leaves a mark that is `0` or at a newline. With the mark `0` and no newline there it fails
exactly where its token asks for a blank line: then a newline stands in front of the buffer for one reason
more, the mark is `1`, the token is not written and no line has ended. The last check of a push never
fails. -/
theorem push_outcome (s : Shaper) (checks : s.config.checkMark = true) (t : Token) :
    (s.taken = true → push t s = .error .alreadyTaken s) ∧
    (s.taken = false → s.mark ≠ 0 → s.slot? s.mark ≠ some .hardNewline →
      push t s = .error (.staleMark s.mark (s.slot? s.mark)) s) ∧
    (s.taken = false → s.slot? s.mark = some .hardNewline →
      ∃ s', push t s = .ok () s' ∧ (s'.mark = 0 ∨ s'.slot? s'.mark = some .hardNewline)) ∧
    (s.taken = false → s.mark = 0 → s.slot? 0 ≠ some .hardNewline →
      ((∃ fault s', push t s = .error fault s') ↔ ∃ r, s.due? t = some r) ∧
      ∀ r, s.due? t = some r → push t s = .error (.staleMark 1 s.buffer.head?)
        { s with
          buffer := .hardNewline :: s.buffer
          mark := 1
          current := s.current.read (s.buffer.getLast?.any Token.isIndent) t
          reasons := s.reasons ++ [r]
          log := s.log ++ if s.config.logBlankLines then [.blankLineInserted 0 r] else [] }) ∧
    push t s = pushUnchecked t s := by
  refine ⟨?_, ?_, ?_, ?_, push_eq_pushUnchecked t s⟩
  · intro taken
    rw [push_eq, if_pos taken]
  · intro untaken moved other
    have stale : s.staleMark? = some (.staleMark s.mark (s.slot? s.mark)) := if_pos ⟨checks, moved, other⟩
    rw [push_eq, untaken, stale]
    rfl
  · intro untaken newline
    obtain ⟨pushed, fresh⟩ := push_of_newline untaken newline t
    refine ⟨s.advance t, pushed, ?_⟩
    rw [staleMark_eq_none_iff, advance_config] at fresh
    exact or_iff_not_imp_left.2 (fresh checks)
  · intro untaken top other
    have ended := push_of_top (t := t) checks untaken top other
    constructor
    · rw [ended]
      cases s.due? t <;> simp
    · intro r due
      have head : s.slot? 0 = s.buffer.head? := by
        simp [slot?, List.head?_eq_getElem?]
      rw [ended, due, head, note_of_due due]
      simp [addBlankLine_eq, insertionPoint, top]

/-- Four shapers that no run from the start reaches: handed over, with a mark counted from the end, with a
line that has ended unnoticed, and at the top below a line that was never closed. -/
theorem push_outcome_of_unreached :
    let taken : Shaper := { buffer := [.text "f"], mark := 7, taken := true }
    let stale : Shaper := { buffer := [.text "f", .hardNewline], mark := -1 }
    let ended : Shaper := { buffer := [.text "f", .hardNewline, .text "g"], mark := 1, previous := some {} }
    let top : Shaper := { buffer := [.indent 2, .endWord], previous := some { hasEnd := true, hasDo := true } }
    (taken.config.checkMark = true ∧ push .classWord taken = .error .alreadyTaken taken) ∧
    (stale.config.checkMark = true ∧ push .classWord stale = .error (.staleMark (-1) none) stale) ∧
    (ended.config.checkMark = true ∧
      ∃ s', push .classWord ended = .ok () s' ∧ (s'.mark = 0 ∨ s'.slot? s'.mark = some .hardNewline)) ∧
    (top.config.checkMark = true ∧ push .doWord top = .error (.staleMark 1 (some (.indent 2)))
      { top with
        buffer := [.hardNewline, .indent 2, .endWord]
        mark := 1
        current := { hasDo := true }
        reasons := [.doKeyword]
        log := [.blankLineInserted 0 .doKeyword] }) := by
  intro taken stale ended top
  refine ⟨⟨rfl, ?_⟩, ⟨rfl, ?_⟩, ⟨rfl, ?_⟩, ⟨rfl, ?_⟩⟩
  · exact (push_outcome taken rfl .classWord).1 rfl
  · exact (push_outcome stale rfl .classWord).2.1 rfl (by decide) (by decide)
  · exact (push_outcome ended rfl .classWord).2.2.1 rfl rfl
  · exact ((push_outcome top rfl .doWord).2.2.2.1 rfl rfl (by decide)).2 .doKeyword rfl

end Interline.Shaper
