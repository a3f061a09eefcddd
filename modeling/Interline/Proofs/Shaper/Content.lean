import Interline.Proofs.Shaper.Sound

/-!
# What an operation adds to a buffer

A push and a request for a blank line on any shaper, sound or not, with the mark wherever it is. Both
put in one hard newline at most, at the mark, and give one reason for it (`Shaper.Inserts`); a push that
does not fail then writes its token (`push_cases`). No check of the mark fails after the token is written.
-/

namespace Interline
set_option autoImplicit false

/-- The entry for a newline that was dropped. -/
def Event.isSuppression : Event → Bool
  | newlineSuppressed _ => true
  | _ => false

namespace Shaper

variable {s s' : Shaper} {added : List Reason}

/-- The buffer with `n` hard newlines put in at the mark. -/
def spliced (s : Shaper) (n : Nat) : List Token :=
  s.buffer.take (insertionPoint s.buffer.length s.mark) ++ List.replicate n .hardNewline ++
    s.buffer.drop (insertionPoint s.buffer.length s.mark)

theorem spliced_zero (s : Shaper) : s.spliced 0 = s.buffer := by
  simp [spliced]

/-- The other tokens stay as they are and in their order. -/
theorem filter_spliced (s : Shaper) (n : Nat) :
    (s.spliced n).filter (· != .hardNewline) = s.buffer.filter (· != .hardNewline) := by
  rw [spliced, List.filter_append, List.filter_append, List.filter_replicate_of_neg (by simp), List.append_nil,
    ← List.filter_append, List.take_append_drop]

theorem count_spliced (s : Shaper) (n : Nat) :
    (s.spliced n).count .hardNewline = s.buffer.count .hardNewline + n := by
  have whole := congrArg (List.count Token.hardNewline)
    (List.take_append_drop (insertionPoint s.buffer.length s.mark) s.buffer)
  rw [List.count_append] at whole
  rw [spliced, List.count_append, List.count_append, List.count_replicate_self, ← whole]
  omega

/-- `s'` holds the buffer of `s` with a newline at the mark for each reason in `added`, of which there is
one at most. No newline was dropped on the way. -/
structure Inserts (s : Shaper) (added : List Reason) (s' : Shaper) : Prop where
  single : added.length ≤ 1
  buffer : s'.buffer = s.spliced added.length
  reasons : s'.reasons = s.reasons ++ added
  log : s'.log.any Event.isSuppression = s.log.any Event.isSuppression

theorem Inserts.refl (s : Shaper) : s.Inserts [] s :=
  ⟨Nat.zero_le 1, s.spliced_zero.symm, (List.append_nil _).symm, rfl⟩

theorem inserts_announce (s : Shaper) (r : Reason) : s.Inserts [] (s.announce r) := by
  rw [announce_eq]
  refine ⟨Nat.zero_le 1, s.spliced_zero.symm, (List.append_nil _).symm, ?_⟩
  cases s.config.logBlankLines <;> simp [Event.isSuppression]

theorem inserts_addBlankLine (s : Shaper) (r : Reason) : s.Inserts [r] (s.addBlankLine r) := by
  rw [addBlankLine_eq]
  refine ⟨Nat.le_refl 1, by simp [spliced], rfl, ?_⟩
  cases s.config.logBlankLines <;> simp [Event.isSuppression]

/-- The facts that a token tells move nothing. -/
theorem Inserts.of_note {t : Token} (h : (s.note t).Inserts added s') : s.Inserts added s' :=
  ⟨h.single, h.buffer, h.reasons, h.log⟩

/-- How an operation ends that puts in one blank line at most. A mark that was right is right again
unless the check of the mark has failed. -/
def MayInsert (s : Shaper) (outcome : EStateM.Result Fault Shaper Unit) : Prop :=
  ∃ added s', s.Inserts added s' ∧ ((∃ fault, outcome = .error fault s') ∨
    outcome = .ok () s' ∧ (s.staleMark? = none → s'.staleMark? = none))

/-- **Any request for a blank line** puts in one at most. -/
theorem mayInsert_insertBlankLine (r : Reason) (s : Shaper) : s.MayInsert (insertBlankLine r s) := by
  rw [insertBlankLine_eq, requireMark_eq]
  cases s.blankAtMark with
  | true => exact ⟨[], s, .refl s, Or.inr ⟨rfl, id⟩⟩
  | false =>
    cases s.inReach with
    | false => exact ⟨[], s.announce r, s.inserts_announce r, Or.inl ⟨.outOfReach, rfl⟩⟩
    | true =>
      refine ⟨[r], s.addBlankLine r, s.inserts_addBlankLine r, ?_⟩
      cases (s.addBlankLine r).staleMark? with
      | none => exact Or.inr ⟨rfl, fun _ => rfl⟩
      | some fault => exact Or.inl ⟨fault, rfl⟩

theorem mayInsert_insertDue (t : Token) (s : Shaper) : s.MayInsert (insertDue t s) := by
  rw [insertDue]
  cases s.due? t with
  | none => exact ⟨[], s, .refl s, Or.inr ⟨rfl, id⟩⟩
  | some r => exact mayInsert_insertBlankLine r s

/-! ## Writing -/

/-- Writing a token leaves a mark right that is right before. -/
theorem staleMark_write (fresh : s.staleMark? = none) (t : Token) : (s.write t).staleMark? = none := by
  rw [staleMark_eq_none_iff] at fresh ⊢
  intro checks moved
  by_cases newline : t = .hardNewline
  · subst newline
    -- The mark moves to the last slot, which holds the newline that ends the line.
    show s.endLine.slot? s.endLine.mark = some .hardNewline
    unfold endLine
    split
    next double =>
      obtain ⟨front, buffer⟩ := double
      have last : (s.buffer.length : Int) - 1 = (front.length + 1 : Nat) := by
        rw [← buffer, List.length_append, List.length_cons, List.length_singleton]
        omega
      show s.slot? (s.buffer.length - 1) = some .hardNewline
      rw [last, slot_natCast, ← buffer]
      simp
    next => simp [slot?]
  · rw [write_of_ne s newline] at checks moved ⊢
    have slot := fresh checks moved
    unfold slot? at slot ⊢
    split at slot
    next inside =>
      rw [if_pos inside, List.getElem?_append_left (List.getElem?_eq_some_iff.1 slot).1]
      exact slot
    next => cases slot

/-- A token is written at the end, unless it is a newline below a blank line. -/
theorem write_cases (t : Token) (s : Shaper) :
    (t = .hardNewline ∧ [.hardNewline, .hardNewline] <:+ s.buffer ∧ (s.write t).buffer = s.buffer ∧
      (s.write t).log.any Event.isSuppression = true) ∨
    ((s.write t).buffer = s.buffer ++ [t] ∧ (s.write t).log = s.log) := by
  by_cases newline : t = .hardNewline
  · subst newline
    show (_ ∧ _ ∧ s.endLine.buffer = _ ∧ s.endLine.log.any Event.isSuppression = true) ∨
      (s.endLine.buffer = _ ∧ s.endLine.log = _)
    unfold endLine
    split
    next double => exact Or.inl ⟨rfl, double, rfl, by simp [record, Event.isSuppression]⟩
    next => exact Or.inr ⟨rfl, rfl⟩
  · rw [write_of_ne s newline]
    exact Or.inr ⟨rfl, rfl⟩

/-- **Any push**: where it fails, the token is not written. -/
theorem push_cases (t : Token) (s : Shaper) :
    ∃ added room, s.Inserts added room ∧
      ((∃ fault, push t s = .error fault room) ∨ push t s = .ok () (room.write t)) := by
  rw [push_eq]
  cases s.taken with
  | true => exact ⟨[], s, .refl s, Or.inl ⟨.alreadyTaken, rfl⟩⟩
  | false =>
    simp only [Bool.false_eq_true, if_false]
    cases stale : s.staleMark? with
    | some fault => exact ⟨[], s, .refl s, Or.inl ⟨fault, rfl⟩⟩
    | none =>
      obtain ⟨added, room, inserts, ⟨fault, failed⟩ | ⟨done, fresh⟩⟩ := mayInsert_insertDue t (s.note t)
      · exact ⟨added, room, inserts.of_note, Or.inl ⟨fault, by rw [failed]⟩⟩
      · refine ⟨added, room, inserts.of_note, Or.inr ?_⟩
        rw [done]
        exact requireMark_of_none (staleMark_write (fresh stale) t)

end Shaper

end Interline
