import Interline.Proofs.Shaper.Sound
import Mathlib.Data.List.DropRight

/-!
# The removal of filler

Filler goes from in front of the last token, back to a token that stays. On a sound shaper it stops at
the mark at the latest, and the mark stays right, unless the buffer ends in filler and a newline: then
the newline moves, the mark does not, and the check of the mark reports it (`Sound.clearFiller`).
-/

namespace Interline
set_option autoImplicit false

/-- A newline is not filler, so the removal of filler stops at the last one. -/
theorem rdropWhile_isFiller_newline (front back : List Token) :
    (front ++ .hardNewline :: back).rdropWhile Token.isFiller =
      front ++ .hardNewline :: back.rdropWhile Token.isFiller := by
  induction back using List.reverseRecOn with
  | nil => exact List.rdropWhile_concat_neg _ _ _ (by decide)
  | append_singleton back t ih =>
    rw [← List.cons_append, ← List.append_assoc, List.rdropWhile_concat, List.rdropWhile_concat, ih]
    split <;> simp

/-- The buffer ends in a newline with filler in front of it. -/
def EndsInFiller (buffer : List Token) : Prop :=
  ∃ kept filler, filler.isFiller = true ∧ buffer = kept ++ [filler, .hardNewline]

theorem endsInFiller_concat {front : List Token} :
    EndsInFiller (front ++ [.hardNewline]) ↔ front.rdropWhile Token.isFiller ≠ front := by
  cases front using List.reverseRecOn with
  | nil =>
    constructor
    · rintro ⟨kept, filler, -, split⟩
      simpa using congrArg List.length split
    · intro removed
      exact absurd rfl removed
  | append_singleton kept t =>
    rw [Ne, List.rdropWhile_eq_self_iff]
    constructor
    · rintro ⟨kept', filler, fill, split⟩ stays
      have same : kept ++ [t] = kept' ++ [filler] := by
        rw [← List.append_left_inj [.hardNewline], split]
        simp
      have last : t = filler := by simpa using congrArg List.getLast? same
      apply stays (by simp)
      simpa [last] using fill
    · intro removed
      refine ⟨kept, t, ?_, by simp⟩
      simpa using removed

theorem not_endsInFiller_of_last {kept : List Token} {t : Token} (other : t ≠ .hardNewline) :
    ¬ EndsInFiller (kept ++ [t]) := by
  rintro ⟨kept', filler, -, split⟩
  apply other
  simpa using congrArg List.getLast? split

theorem not_endsInFiller_of_short {buffer : List Token} (short : buffer.length < 2) : ¬ EndsInFiller buffer := by
  rintro ⟨kept, filler, -, rfl⟩
  simp only [List.length_append, List.length_cons] at short
  omega

namespace Shaper

variable {s : Shaper} {front back : List Token}

/-- Filler goes from in front of the last token, back to the first token that is not filler. -/
theorem dropFiller_concat {kept : List Token} {t : Token} (buffer : s.buffer = kept ++ [t]) :
    s.dropFiller = { s with buffer := kept.rdropWhile Token.isFiller ++ [t] } := by
  simp [dropFiller, buffer, List.rdropWhile]

theorem dropFiller_of_nil (buffer : s.buffer = []) : s.dropFiller = s := by
  simp [dropFiller, buffer]

/-- The removal of filler changes the buffer and nothing else. -/
theorem dropFiller_frame (s : Shaper) : ∃ buffer, s.dropFiller = { s with buffer } := by
  cases buffer : s.buffer using List.reverseRecOn with
  | nil => exact ⟨s.buffer, dropFiller_of_nil buffer⟩
  | append_singleton kept t => exact ⟨_, dropFiller_concat buffer⟩

@[simp] theorem dropFiller_config (s : Shaper) : s.dropFiller.config = s.config := by
  obtain ⟨buffer, same⟩ := s.dropFiller_frame
  rw [same]

@[simp] theorem dropFiller_taken (s : Shaper) : s.dropFiller.taken = s.taken := by
  obtain ⟨buffer, same⟩ := s.dropFiller_frame
  rw [same]

@[simp] theorem dropFiller_mark (s : Shaper) : s.dropFiller.mark = s.mark := by
  obtain ⟨buffer, same⟩ := s.dropFiller_frame
  rw [same]

theorem Unmarked.dropFiller (h : s.Unmarked) : s.dropFiller.Unmarked := by
  cases buffer : s.buffer using List.reverseRecOn with
  | nil =>
    rw [dropFiller_of_nil buffer]
    exact h
  | append_singleton kept t =>
    have absent := h.buffer
    rw [buffer, List.mem_append, not_or] at absent
    rw [dropFiller_concat buffer]
    refine ⟨?_, h.mark, h.previous, h.reasons⟩
    rw [List.mem_append, not_or]
    refine ⟨?_, absent.2⟩
    intro member
    exact absent.1 ((List.rdropWhile_prefix _ _).subset member)

theorem Marked.dropFiller {t : Token} (h : s.Marked front (back ++ [t])) :
    s.dropFiller.Marked front (back.rdropWhile Token.isFiller ++ [t]) := by
  have buffer : s.buffer = (front ++ .hardNewline :: back) ++ [t] := by simp [h.buffer]
  have last := h.last
  rw [List.mem_append, not_or] at last
  rw [dropFiller_concat buffer, rdropWhile_isFiller_newline]
  refine ⟨⟨by simp, h.mark, ?_⟩, h.previous, h.single⟩
  rw [List.mem_append, not_or]
  refine ⟨?_, last.2⟩
  intro member
  exact last.1 ((List.rdropWhile_prefix _ _).subset member)

/-- Filler in front of a closing newline: the newline moves down and the mark does not. -/
theorem Marked.staleMark_dropFiller (h : s.Marked front []) (checks : s.config.checkMark = true)
    (filler : front.rdropWhile Token.isFiller ≠ front) :
    s.dropFiller.staleMark? = some (.staleMark s.mark none) := by
  have shorter : (front.rdropWhile Token.isFiller).length < front.length := by
    have part := List.rdropWhile_prefix Token.isFiller front
    rcases Nat.lt_or_eq_of_le part.length_le with less | equal
    · exact less
    · exact absurd (part.eq_of_length equal) filler
  have slot : s.dropFiller.slot? s.mark = none := by
    rw [dropFiller_concat h.buffer, h.mark]
    simp [slot?]
    omega
  have nonzero : s.mark ≠ 0 := by
    rw [h.mark]
    omega
  rw [staleMark?, dropFiller_config, dropFiller_mark, slot]
  exact if_pos ⟨checks, nonzero, by simp⟩

/-- **The three ways** in which filler is removed: while no line has ended, below the mark, and in front
of the newline that is marked. -/
theorem Sound.dropFiller_cases (h : s.Sound) :
    (¬ EndsInFiller s.buffer ∧
      (s.Unmarked ∧ s.dropFiller.Unmarked ∨ ∃ front back back', s.Marked front back ∧ s.dropFiller.Marked front back')) ∨
    (EndsInFiller s.buffer ∧
      (s.config.checkMark = true → s.dropFiller.staleMark? = some (.staleMark (s.buffer.length - 1) none))) := by
  rcases h.mark with unmarked | ⟨front, back, marked⟩
  · refine Or.inl ⟨?_, Or.inl ⟨unmarked, unmarked.dropFiller⟩⟩
    rintro ⟨kept, filler, -, split⟩
    apply unmarked.buffer
    simp [split]
  · cases back using List.reverseRecOn with
    | nil =>
      by_cases stays : front.rdropWhile Token.isFiller = front
      · have same : s.dropFiller = s := by rw [dropFiller_concat marked.buffer, stays, ← marked.buffer]
        refine Or.inl ⟨?_, Or.inr ⟨front, [], [], marked, by rwa [same]⟩⟩
        rw [marked.buffer, endsInFiller_concat]
        exact not_not.2 stays
      · have index : (s.buffer.length : Int) - 1 = s.mark := by
          rw [marked.mark, marked.buffer, List.length_append, List.length_singleton]
          omega
        refine Or.inr ⟨?_, ?_⟩
        · rw [marked.buffer, endsInFiller_concat]
          exact stays
        · intro checks
          rw [index]
          exact marked.staleMark_dropFiller checks stays
    | append_singleton back t =>
      have other : t ≠ .hardNewline := by
        rintro rfl
        exact marked.last (by simp)
      refine Or.inl ⟨?_, Or.inr ⟨front, _, _, marked, marked.dropFiller⟩⟩
      rw [marked.buffer, ← List.cons_append, ← List.append_assoc]
      exact not_endsInFiller_of_last other

theorem Sound.dropFiller (h : s.Sound) (below : ¬ EndsInFiller s.buffer) : s.dropFiller.Sound := by
  refine ⟨s.dropFiller_taken.trans h.untaken, ?_⟩
  rcases h.dropFiller_cases with ⟨-, ⟨-, unmarked⟩ | ⟨front, -, back', -, marked⟩⟩ | ⟨inFront, -⟩
  · exact Or.inl unmarked
  · exact Or.inr ⟨front, back', marked⟩
  · exact absurd inFront below

/-- **A removal of filler** is refused where the buffer is too short, and reports a stale mark where the
filler stands in front of the newline that is marked. -/
theorem Sound.clearFiller (h : s.Sound) (checks : s.config.checkMark = true) :
    (s.buffer.length < 2 ∧ Shaper.clearFiller s = .error (.bufferTooShort s.buffer.length 2) s) ∨
    (2 ≤ s.buffer.length ∧ ¬ EndsInFiller s.buffer ∧ Shaper.clearFiller s = .ok () s.dropFiller) ∨
    (EndsInFiller s.buffer ∧
      Shaper.clearFiller s = .error (.staleMark (s.buffer.length - 1) none) s.dropFiller) := by
  rw [clearFiller_eq, if_neg (by simp [h.untaken])]
  by_cases short : s.buffer.length < 2
  · exact Or.inl ⟨short, if_pos ⟨checks, short⟩⟩
  · rw [if_neg fun both => short both.2, requireMark_eq]
    right
    by_cases below : EndsInFiller s.buffer
    · rcases h.dropFiller_cases with ⟨other, -⟩ | ⟨-, stale⟩
      · exact absurd below other
      · exact Or.inr ⟨below, by rw [stale checks]⟩
    · exact Or.inl ⟨Nat.le_of_not_lt short, below, by rw [(h.dropFiller below).staleMark_eq_none]⟩

end Shaper

end Interline
