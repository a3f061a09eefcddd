import Interline.Proofs.Shaper.Mark
import Mathlib.Data.List.DropRight

/-!
# Sound shapers

A shaper is sound when it was not handed over and either no line has ended, or the mark is
the slot of the last hard newline and no three newlines stand in a row. A push keeps a shaper
sound and never fails. A blank line keeps it sound once a line has ended, and removing filler
does unless the removal reaches past the last newline, which the check of the mark reports.
-/

namespace Interline
set_option autoImplicit false

/-- A newline after a line, or below a newline that has none above it, makes no third in a row. -/
theorem not_triple_concat {front back : List Token} (last : .hardNewline ∉ back)
    (single : back = [] → front.getLast? ≠ some .hardNewline)
    (free : ¬ [.hardNewline, .hardNewline, .hardNewline] <:+: front ++ [.hardNewline]) :
    ¬ [.hardNewline, .hardNewline, .hardNewline] <:+: (front ++ .hardNewline :: back) ++ [.hardNewline] := by
  rw [List.infix_concat_iff, triple_infix_iff last]
  rintro (suffix | inside)
  · rw [show [Token.hardNewline, .hardNewline, .hardNewline] =
        [.hardNewline, .hardNewline] ++ [.hardNewline] from rfl,
      List.suffix_append_inj_of_length_eq rfl, pair_suffix_iff _ last] at suffix
    exact single suffix.1.1 suffix.1.2
  · exact free inside

theorem not_triple_of_not_mem {front : List Token} (absent : .hardNewline ∉ front) :
    ¬ [.hardNewline, .hardNewline, .hardNewline] <:+: front ++ [.hardNewline] := by
  intro inside
  have count := inside.sublist.count_le Token.hardNewline
  simp [List.count_eq_zero.2 absent] at count

theorem not_newline_of_not_endsBlank {front : List Token} (text : endsBlank front = false) :
    front.getLast? ≠ some .hardNewline := by
  intro newline
  simp [endsBlank, newline] at text

namespace Shaper

/-- No line has ended. -/
structure Unmarked (s : Shaper) : Prop where
  buffer : .hardNewline ∉ s.buffer
  mark : s.mark = 0
  previous : s.previous = none
  reasons : s.reasons = []

/-- A line has ended, and what the mark is has not been lost. -/
structure Marked (s : Shaper) (front back : List Token) : Prop extends s.MarkedAt front back where
  previous : s.previous.isSome
  single : ¬ [.hardNewline, .hardNewline, .hardNewline] <:+: front ++ [.hardNewline]

structure Sound (s : Shaper) : Prop where
  untaken : s.taken = false
  mark : s.Unmarked ∨ ∃ front back, s.Marked front back

variable {s : Shaper} {front back : List Token}

@[simp] theorem write_config (s : Shaper) (t : Token) : (s.write t).config = s.config := by
  cases t <;> try rfl
  simp only [write, endLine]
  split <;> rfl

@[simp] theorem write_taken (s : Shaper) (t : Token) : (s.write t).taken = s.taken := by
  cases t <;> try rfl
  simp only [write, endLine]
  split <;> rfl

@[simp] theorem write_reasons (s : Shaper) (t : Token) : (s.write t).reasons = s.reasons := by
  cases t <;> try rfl
  simp only [write, endLine]
  split <;> rfl

theorem endLine_current (s : Shaper) : s.endLine.current = {} := by
  unfold endLine record
  split <;> rfl

theorem endLine_previous (s : Shaper) : s.endLine.previous = some s.current := by
  unfold endLine record
  split <;> rfl

theorem makeRoom_cases (s : Shaper) (t : Token) :
    s.makeRoom t = s ∨ ∃ r, s.due? t = some r ∧ s.blankAtMark = false ∧ s.makeRoom t = s.addBlankLine r := by
  unfold makeRoom
  cases s.due? t with
  | none => exact Or.inl rfl
  | some r =>
    cases blank : s.blankAtMark with
    | true => exact Or.inl (by simp)
    | false => exact Or.inr ⟨r, rfl, rfl, by simp⟩

@[simp] theorem makeRoom_config (s : Shaper) (t : Token) : (s.makeRoom t).config = s.config := by
  rcases s.makeRoom_cases t with same | ⟨r, -, -, added⟩
  · rw [same]
  · rw [added, (s.addBlankLine_frame r).1]

@[simp] theorem makeRoom_taken (s : Shaper) (t : Token) : (s.makeRoom t).taken = s.taken := by
  rcases s.makeRoom_cases t with same | ⟨r, -, -, added⟩
  · rw [same]
  · rw [added, (s.addBlankLine_frame r).2.2.2]

theorem makeRoom_current (s : Shaper) (t : Token) : (s.makeRoom t).current = s.current := by
  rcases s.makeRoom_cases t with same | ⟨r, -, -, added⟩
  · rw [same]
  · rw [added, (s.addBlankLine_frame r).2.1]

theorem makeRoom_previous (s : Shaper) (t : Token) : (s.makeRoom t).previous = s.previous := by
  rcases s.makeRoom_cases t with same | ⟨r, -, -, added⟩
  · rw [same]
  · rw [added, (s.addBlankLine_frame r).2.2.1]

@[simp] theorem advance_config (s : Shaper) (t : Token) : (s.advance t).config = s.config := by
  simp [advance]

/-- Before anything is pushed. -/
theorem sound_fresh (config : ShaperConfig) : ({ config } : Shaper).Sound :=
  ⟨rfl, Or.inl ⟨by simp, rfl, rfl, rfl⟩⟩

/-! ## Pushes -/

theorem Unmarked.staleMark_eq_none (h : s.Unmarked) : s.staleMark? = none := by
  simp [staleMark?, h.mark]

theorem Unmarked.note (h : s.Unmarked) (t : Token) : (s.note t).Unmarked :=
  ⟨h.buffer, h.mark, by simp [Shaper.note, h.previous], h.reasons⟩

/-- No rule asks for a blank line before a line has ended. -/
theorem Unmarked.due_eq_none (h : s.Unmarked) (t : Token) : s.due? t = none := by
  have newline : ¬ [.endWord, .hardNewline] <:+ s.buffer := by
    intro suffix
    exact h.buffer (suffix.subset (by simp))
  cases t <;> simp [due?, h.previous, newline]

theorem Unmarked.makeRoom_eq (h : s.Unmarked) (t : Token) : s.makeRoom t = s := by
  rw [makeRoom, h.due_eq_none]

theorem Unmarked.write (h : s.Unmarked) {t : Token} (other : t ≠ .hardNewline) : (s.write t).Unmarked := by
  rw [s.write_of_ne other]
  exact ⟨by simp [h.buffer, Ne.symm other], h.mark, h.previous, h.reasons⟩

theorem Unmarked.endLine (h : s.Unmarked) : s.endLine.Marked s.buffer [] := by
  have ends : ¬ [.hardNewline, .hardNewline] <:+ s.buffer := by
    intro suffix
    exact h.buffer (suffix.subset (by simp))
  rw [Shaper.endLine, if_neg ends]
  exact ⟨⟨rfl, rfl, by simp⟩, rfl, not_triple_of_not_mem h.buffer⟩

theorem Marked.note (h : s.Marked front back) (t : Token) : (s.note t).Marked front back :=
  ⟨h.toMarkedAt.congr rfl rfl, by rw [note_previous_isSome]; exact h.previous, h.single⟩

theorem Marked.addBlankLine (h : s.Marked front back) (r : Reason) (missing : s.blankAtMark = false) :
    (s.addBlankLine r).Marked (front ++ [.hardNewline]) back := by
  rw [h.blankAtMark_eq] at missing
  refine ⟨h.toMarkedAt.addBlankLine r, ?_, ?_⟩
  · rw [(s.addBlankLine_frame r).2.2.1]
    exact h.previous
  · apply not_triple_concat (by simp) _ h.single
    intro _
    exact not_newline_of_not_endsBlank missing

theorem Marked.makeRoom (h : s.Marked front back) (t : Token) : ∃ front', (s.makeRoom t).Marked front' back := by
  rcases s.makeRoom_cases t with same | ⟨r, -, missing, added⟩
  · exact ⟨front, by rw [same]; exact h⟩
  · exact ⟨_, by rw [added]; exact h.addBlankLine r missing⟩

theorem Marked.endLine (h : s.Marked front back) : ∃ front', s.endLine.Marked front' [] := by
  have previous : s.endLine.previous.isSome := by rw [endLine_previous]; rfl
  by_cases double : back = [] ∧ front.getLast? = some .hardNewline
  · obtain ⟨rfl, newline⟩ := double
    exact ⟨front, h.toMarkedAt.endLine_of_double newline, previous, h.single⟩
  · have single : back = [] → front.getLast? ≠ some .hardNewline := by
      intro empty newline
      exact double ⟨empty, newline⟩
    exact ⟨_, h.toMarkedAt.endLine_of_single single, previous, not_triple_concat h.last single h.single⟩

theorem Marked.write (h : s.Marked front back) (t : Token) : ∃ front' back', (s.write t).Marked front' back' := by
  by_cases newline : t = .hardNewline
  · subst newline
    obtain ⟨front', marked⟩ := h.endLine
    exact ⟨front', [], marked⟩
  · refine ⟨front, back ++ [t], h.toMarkedAt.write newline, ?_, h.single⟩
    rw [s.write_of_ne newline]
    exact h.previous

/-- The mark of a sound shaper is in its buffer, or at the top. -/
theorem Sound.inReach (h : s.Sound) : s.inReach = true := by
  rcases h.mark with unmarked | ⟨front, back, marked⟩
  · exact inReach_of_inside (Int.le_of_eq unmarked.mark.symm) (by rw [unmarked.mark]; omega)
  · exact inReach_of_slot marked.slot_mark

theorem Sound.staleMark_eq_none (h : s.Sound) : s.staleMark? = none := by
  rcases h.mark with unmarked | ⟨front, back, marked⟩
  · exact unmarked.staleMark_eq_none
  · exact marked.toMarkedAt.staleMark_eq_none

theorem Sound.note (h : s.Sound) (t : Token) : (s.note t).Sound := by
  refine ⟨h.untaken, ?_⟩
  rcases h.mark with unmarked | ⟨front, back, marked⟩
  · exact Or.inl (unmarked.note t)
  · exact Or.inr ⟨front, back, marked.note t⟩

theorem Sound.makeRoom (h : s.Sound) (t : Token) : (s.makeRoom t).Sound := by
  refine ⟨(s.makeRoom_taken t).trans h.untaken, ?_⟩
  rcases h.mark with unmarked | ⟨front, back, marked⟩
  · rw [unmarked.makeRoom_eq]
    exact Or.inl unmarked
  · obtain ⟨front', room⟩ := marked.makeRoom t
    exact Or.inr ⟨front', back, room⟩

theorem Sound.write (h : s.Sound) (t : Token) : (s.write t).Sound := by
  refine ⟨(s.write_taken t).trans h.untaken, ?_⟩
  rcases h.mark with unmarked | ⟨front, back, marked⟩
  · by_cases newline : t = .hardNewline
    · subst newline
      exact Or.inr ⟨_, _, unmarked.endLine⟩
    · exact Or.inl (unmarked.write newline)
  · exact Or.inr (marked.write t)

/-- **Pushes never fail** on a sound shaper, and keep it sound. -/
theorem Sound.push (h : s.Sound) (t : Token) : Shaper.push t s = .ok () (s.advance t) ∧ (s.advance t).Sound := by
  have between : ((s.note t).makeRoom t).Sound := (h.note t).makeRoom t
  have after : (s.advance t).Sound := between.write t
  refine ⟨?_, after⟩
  exact push_eq_advance h.untaken h.inReach h.staleMark_eq_none between.staleMark_eq_none after.staleMark_eq_none

/-- The state after writing `ts` where no check of the mark fails. -/
def advanceAll (s : Shaper) (ts : List Token) : Shaper :=
  ts.foldl advance s

@[simp] theorem advanceAll_nil (s : Shaper) : s.advanceAll [] = s := rfl

@[simp] theorem advanceAll_cons (s : Shaper) (t : Token) (ts : List Token) :
    s.advanceAll (t :: ts) = (s.advance t).advanceAll ts := rfl

@[simp] theorem advanceAll_append (s : Shaper) (ts us : List Token) :
    s.advanceAll (ts ++ us) = (s.advanceAll ts).advanceAll us :=
  List.foldl_append

theorem Sound.pushAll (h : s.Sound) (ts : List Token) :
    Shaper.pushAll ts s = .ok () (s.advanceAll ts) ∧ (s.advanceAll ts).Sound := by
  induction ts generalizing s with
  | nil => exact ⟨rfl, h⟩
  | cons t ts ih =>
    obtain ⟨pushed, sound⟩ := h.push t
    rw [pushAll_cons_eq, pushed]
    exact ih sound

end Shaper

end Interline
