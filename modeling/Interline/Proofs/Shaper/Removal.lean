import Interline.Proofs.Shaper.Content
import Interline.Proofs.Shaper.Filler

/-!
# The removal of filler, wherever the mark is

From any shaper the removal takes the longest run of filler in front of the last token and nothing else;
the mark stays, and the check of the mark looks at the shorter buffer (`clearFiller_outcome`). Taking the
tokens out one at a time comes to the same (`dropFiller_buffer`).
-/

namespace Interline
set_option autoImplicit false

theorem Token.isFiller_iff (t : Token) : t.isFiller = true ↔ t = .comma ∨ t = .space ∨ t = .text "" := by
  cases t <;> simp [isFiller]

/-- A run at the end that a test holds of is part of the longest one. -/
theorem suffix_rtakeWhile {α : Type} {p : α → Bool} {run ts : List α} (suffix : run <:+ ts) (holds : ∀ t ∈ run, p t) :
    run <:+ ts.rtakeWhile p := by
  obtain ⟨front, rfl⟩ := suffix
  have reversed : ∀ t ∈ run.reverse, p t := by simpa using holds
  rw [List.rtakeWhile, List.reverse_append, List.takeWhile_append_of_pos reversed, List.reverse_append,
    List.reverse_reverse]
  exact List.suffix_append _ _

/-- Takes the token before the last one out, again and again, as long as it is filler. -/
def deleteFiller (buffer : List Token) : List Token :=
  if 2 ≤ buffer.length ∧ (buffer[buffer.length - 2]?).any Token.isFiller then
    deleteFiller (buffer.eraseIdx (buffer.length - 2))
  else buffer
termination_by buffer.length
decreasing_by
  rw [List.length_eraseIdx]
  split <;> omega

/-- One at a time the tokens in front of `t` go, back to the first that is not filler. -/
theorem deleteFiller_concat (kept : List Token) (t : Token) :
    deleteFiller (kept ++ [t]) = kept.rdropWhile Token.isFiller ++ [t] := by
  induction kept using List.reverseRecOn with
  | nil => simp [deleteFiller]
  | append_singleton kept u ih =>
    -- The token that is looked at is `u`, and where it goes the same is left to do with `kept`.
    have place : (kept ++ [u] ++ [t]).length - 2 = kept.length := by simp
    have before : (kept ++ [u] ++ [t])[kept.length]? = some u := by simp
    have shorter : (kept ++ [u] ++ [t]).eraseIdx kept.length = kept ++ [t] := by
      rw [List.append_assoc, List.eraseIdx_append_of_length_le (Nat.le_refl _)]
      simp
    have long : 2 ≤ (kept ++ [u] ++ [t]).length := by simp
    rw [deleteFiller, place, before, shorter, List.rdropWhile_concat, Option.any_some]
    cases u.isFiller with
    | true => rw [if_pos ⟨long, rfl⟩, if_pos rfl, ih]
    | false => simp

namespace Shaper

variable {s : Shaper}

/-- **Filler goes as if one token at a time.** -/
theorem dropFiller_buffer (s : Shaper) : s.dropFiller.buffer = deleteFiller s.buffer := by
  cases buffer : s.buffer using List.reverseRecOn with
  | nil => simp [dropFiller_of_nil buffer, buffer, deleteFiller]
  | append_singleton kept t => rw [dropFiller_concat buffer, deleteFiller_concat]

/-- After a removal there is nothing to remove. -/
theorem dropFiller_dropFiller (s : Shaper) : s.dropFiller.dropFiller = s.dropFiller := by
  cases buffer : s.buffer using List.reverseRecOn with
  | nil => rw [dropFiller_of_nil buffer, dropFiller_of_nil buffer]
  | append_singleton kept t =>
    rw [dropFiller_concat buffer, dropFiller_concat rfl]
    simp only [List.rdropWhile_idempotent]

theorem dropFiller_of_short (short : s.buffer.length < 2) : s.dropFiller = s := by
  cases buffer : s.buffer using List.reverseRecOn with
  | nil => exact dropFiller_of_nil buffer
  | append_singleton kept t =>
    have none : kept = [] := by
      rw [buffer, List.length_append, List.length_singleton] at short
      exact List.eq_nil_of_length_eq_zero (by omega)
    subst none
    rw [dropFiller_concat buffer, List.rdropWhile_nil, ← buffer]

/-- From a buffer that is long enough the removal goes on to the check of the mark. -/
theorem clearFiller_of_long (untaken : s.taken = false) (long : 2 ≤ s.buffer.length) :
    clearFiller s = requireMark s.dropFiller := by
  rw [clearFiller_eq, untaken, if_neg Bool.false_ne_true, if_neg]
  omega

/-- Whether a removal fails or not, it leaves what `dropFiller` leaves, or nothing is there to remove. -/
theorem clearFiller_state (untaken : s.taken = false) :
    clearFiller s = .ok () s.dropFiller ∨ ∃ fault, clearFiller s = .error fault s.dropFiller := by
  rw [clearFiller_eq, untaken, if_neg Bool.false_ne_true]
  split
  next both =>
    rw [dropFiller_of_short both.2]
    exact Or.inr ⟨_, rfl⟩
  next =>
    rw [requireMark_eq]
    cases s.dropFiller.staleMark? with
    | none => exact Or.inl rfl
    | some fault => exact Or.inr ⟨fault, rfl⟩

/-- **What a removal of filler does** to a shaper that was not handed over. In front of the last token the
longest run of commas, spaces and empty texts goes, which is what goes when the tokens are taken out one at
a time; the rest stays, and the removal fails exactly where the mark is checked, is not `0` and is not at a
newline of the shorter buffer. Another removal changes nothing. A buffer of fewer than two tokens stays as
it is, and is refused where the mark is checked. -/
theorem clearFiller_outcome (s : Shaper) (untaken : s.taken = false) :
    (∀ ts last, s.buffer = ts ++ [last] → ts ≠ [] → ∃ kept filler, ts = kept ++ filler ∧
      (∀ t ∈ filler, t = .comma ∨ t = .space ∨ t = .text "") ∧
      (∀ run, run <:+ ts → (∀ t ∈ run, t = .comma ∨ t = .space ∨ t = .text "") → run <:+ filler) ∧
      kept ++ [last] = deleteFiller s.buffer ∧
      let s' : Shaper := { s with buffer := kept ++ [last] }
      clearFiller s = (if s.config.checkMark = true ∧ s.mark ≠ 0 ∧ s'.slot? s.mark ≠ some .hardNewline
        then .error (.staleMark s.mark (s'.slot? s.mark)) s' else .ok () s') ∧
      (clearFiller s' = .ok () s' ∨ ∃ fault, clearFiller s' = .error fault s')) ∧
    (s.buffer.length < 2 →
      clearFiller s = if s.config.checkMark then .error (.bufferTooShort s.buffer.length 2) s else .ok () s) := by
  constructor
  · intro ts last buffer held
    have dropped : s.dropFiller = { s with buffer := ts.rdropWhile Token.isFiller ++ [last] } := dropFiller_concat buffer
    refine ⟨ts.rdropWhile Token.isFiller, ts.rtakeWhile Token.isFiller,
      (List.rdropWhile_append_rtakeWhile ..).symm, ?_, ?_, ?_, ?_, ?_⟩
    · intro t member
      exact t.isFiller_iff.1 (List.mem_rtakeWhile_imp member)
    · intro run suffix filler
      exact suffix_rtakeWhile suffix fun t member => t.isFiller_iff.2 (filler t member)
    · rw [← dropFiller_buffer, dropped]
    · have long : 2 ≤ s.buffer.length := by
        have some := List.length_pos_of_ne_nil held
        rw [buffer, List.length_append, List.length_singleton]
        omega
      rw [clearFiller_of_long untaken long, dropped, requireMark_eq, staleMark?]
      by_cases stale : s.config.checkMark = true ∧ s.mark ≠ 0 ∧
        ({ s with buffer := ts.rdropWhile Token.isFiller ++ [last] } : Shaper).slot? s.mark ≠ some .hardNewline
      · rw [if_pos stale, if_pos stale]
      · rw [if_neg stale, if_neg stale]
    · rw [← dropped]
      have again := clearFiller_state (s := s.dropFiller) (s.dropFiller_taken.trans untaken)
      rwa [dropFiller_dropFiller] at again
  · intro short
    rw [clearFiller_eq, untaken, if_neg Bool.false_ne_true, dropFiller_of_short short, requireMark_eq]
    cases checks : s.config.checkMark with
    | true => simp [short]
    | false => simp [staleMark?, checks]

/-- Filler that ends in filler, with the mark in the middle of what goes. -/
theorem clearFiller_outcome_of_filler :
    let s : Shaper := { buffer := [.text "f", .comma, .space, .text "", .comma], mark := 3 }
    let s' : Shaper := { s with buffer := [.text "f", .comma] }
    s.taken = false ∧ clearFiller s = .error (.staleMark 3 none) s' ∧
      (clearFiller s' = .ok () s' ∨ ∃ fault, clearFiller s' = .error fault s') := by
  intro s s'
  obtain ⟨kept, filler, -, -, -, deleted, ended, again⟩ :=
    (clearFiller_outcome s rfl).1 [.text "f", .comma, .space, .text ""] .comma rfl (by simp)
  have rest : kept ++ [Token.comma] = [.text "f", .comma] :=
    deleted.trans (deleteFiller_concat [.text "f", .comma, .space, .text ""] .comma)
  simp only [rest] at ended again
  exact ⟨rfl, ended, again⟩

end Shaper

end Interline
