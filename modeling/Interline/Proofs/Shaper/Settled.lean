import Interline.Proofs.Shaper.Sound
import Mathlib.Data.List.DropRight
import Mathlib.Data.List.Infix

/-!
# Settled tokens

The tokens up to the last hard newline are settled: what a sound shaper writes later stands below
them (`Sound.settled_advance`). A blank line stands below them too: it goes in at the mark, and of
the two newlines there the lower one is the last.
-/

namespace Interline
set_option autoImplicit false

/-- The tokens up to the last hard newline. -/
def settled (buffer : List Token) : List Token :=
  buffer.rdropWhile (· != .hardNewline)

theorem settled_prefix_buffer (buffer : List Token) : settled buffer <+: buffer :=
  List.rdropWhile_prefix _ _

theorem settled_append {back : List Token} (last : .hardNewline ∉ back) (front : List Token) :
    settled (front ++ .hardNewline :: back) = front ++ [.hardNewline] := by
  unfold settled
  induction back using List.reverseRecOn with
  | nil => exact List.rdropWhile_concat_neg _ _ _ (by simp)
  | append_singleton back t ih =>
    simp only [List.mem_append, List.mem_singleton, not_or] at last
    rw [← List.cons_append, ← List.append_assoc, List.rdropWhile_concat_pos _ _ _ (by simp [Ne.symm last.2]), ih last.1]

theorem settled_of_not_mem {buffer : List Token} (absent : .hardNewline ∉ buffer) : settled buffer = [] := by
  rw [settled, List.rdropWhile_eq_nil_iff]
  intro t member
  have other : t ≠ .hardNewline := by
    rintro rfl
    exact absent member
  simp [other]

namespace Shaper

variable {s : Shaper} {front back : List Token}

theorem MarkedAt.settled_eq (h : s.MarkedAt front back) : settled s.buffer = front ++ [.hardNewline] := by
  rw [h.buffer, settled_append h.last]

/-- What leaves the last newline alone unsettles nothing. -/
theorem MarkedAt.settled_same {s' : Shaper} {back' : List Token} (h : s.MarkedAt front back)
    (h' : s'.MarkedAt front back') : settled s.buffer <+: settled s'.buffer := by
  rw [h.settled_eq, h'.settled_eq]

/-- A new last newline below the old one settles more. -/
theorem MarkedAt.settled_below {s' : Shaper} {middle back' : List Token} (h : s.MarkedAt front back)
    (h' : s'.MarkedAt (front ++ .hardNewline :: middle) back') : settled s.buffer <+: settled s'.buffer := by
  rw [h.settled_eq, h'.settled_eq]
  exact ⟨middle ++ [.hardNewline], by simp⟩

theorem MarkedAt.settled_makeRoom (h : s.MarkedAt front back) (t : Token) :
    settled s.buffer <+: settled (s.makeRoom t).buffer := by
  rcases s.makeRoom_cases t with same | ⟨r, -, -, added⟩
  · rw [same]
  · rw [added]
    exact h.settled_below (h.addBlankLine r)

theorem MarkedAt.settled_write (h : s.MarkedAt front back) (t : Token) :
    settled s.buffer <+: settled (s.write t).buffer := by
  by_cases newline : t = .hardNewline
  · subst newline
    by_cases double : back = [] ∧ front.getLast? = some .hardNewline
    · obtain ⟨rfl, double⟩ := double
      exact h.settled_same (h.endLine_of_double double)
    · exact h.settled_below (h.endLine_of_single (not_and.1 double))
  · exact h.settled_same (h.write newline)

/-- **A push** rewrites no settled token. -/
theorem Sound.settled_advance (h : s.Sound) (t : Token) : settled s.buffer <+: settled (s.advance t).buffer := by
  rcases h.mark with unmarked | ⟨front, back, marked⟩
  · rw [settled_of_not_mem unmarked.buffer]
    exact List.nil_prefix
  · have noted := marked.note t
    obtain ⟨front', room⟩ := noted.makeRoom t
    exact (noted.toMarkedAt.settled_makeRoom t).trans (room.toMarkedAt.settled_write t)

/-- The mark is the slot of the last settled token, and `0` while there is none. -/
theorem Sound.mark_eq (h : s.Sound) : s.mark = ((settled s.buffer).length - 1 : Nat) := by
  rcases h.mark with unmarked | ⟨front, back, marked⟩
  · rw [settled_of_not_mem unmarked.buffer, unmarked.mark]
    rfl
  · rw [marked.settled_eq, marked.mark, List.length_append, List.length_singleton, Nat.add_sub_cancel]

/-- The tokens up to the mark are the settled ones, once a line has ended. -/
theorem Sound.take_mark (h : s.Sound) (newline : .hardNewline ∈ s.buffer) :
    ∃ n : Nat, s.mark = n ∧ s.buffer.take (n + 1) = settled s.buffer := by
  rcases h.mark with unmarked | ⟨front, back, marked⟩
  · exact absurd newline unmarked.buffer
  · refine ⟨front.length, marked.mark, ?_⟩
    rw [marked.settled_eq, marked.buffer, List.take_length_add_append]
    rfl

end Shaper

end Interline
