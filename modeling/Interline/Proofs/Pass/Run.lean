import Interline.Pass
import Interline.Proofs.Pass.Rows

/-!
# A pass as a whole

`shape_eq_spaced`: a pass never fails, and returns the stream in the spacing of its layout with
the reasons of that spacing.
-/

namespace Interline
set_option autoImplicit false

namespace Shaper

variable {s : Shaper} {line : List Token}

/-- In the first line of a stream. -/
structure InFirst (s : Shaper) (line : List Token) : Prop extends s.Unmarked where
  read : s.buffer = line
  current : s.current = Line.ofTokens line

namespace InFirst

theorem advance (h : s.InFirst line) {t : Token} (other : t ≠ .hardNewline) :
    (s.advance t).InFirst (line ++ [t]) := by
  have noted := h.toUnmarked.note t
  have current : (s.note t).current = Line.ofTokens (line ++ [t]) := by
    rw [Line.ofTokens_snoc, ← h.current, ← h.read]
    rfl
  have written := noted.write other
  rw [Shaper.advance, noted.makeRoom_eq]
  refine ⟨written, ?_, ?_⟩
  · rw [write_of_ne _ other, note_buffer, h.read]
  · rw [write_of_ne _ other]
    exact current

theorem advanceAll (h : s.InFirst line) {ts : List Token} (text : .hardNewline ∉ ts) :
    (s.advanceAll ts).InFirst (line ++ ts) := by
  induction ts generalizing s line with
  | nil => simpa using h
  | cons t ts ih =>
    obtain ⟨other, rest⟩ := newline_not_mem_cons.1 text
    simpa using ih (h.advance other) rest

/-- The first newline ends the first line, with no line above it to ask for anything. -/
theorem closeLine (h : s.InFirst line) :
    (s.advance .hardNewline).InRow ⟨line, true, line.length⟩ line 0 [] ∧
      (s.advance .hardNewline).reasons = [] := by
  have advanced : s.advance .hardNewline = s.endLine := by
    rw [Shaper.advance, note_newline, h.toUnmarked.makeRoom_eq]
    rfl
  rw [advanced]
  refine ⟨⟨?_, endLine_current s, ?_⟩, ?_⟩
  · simpa [h.read] using h.toUnmarked.endLine.toMarkedAt
  · intro _
    rw [endLine_previous, h.current]
    rfl
  · exact (s.write_reasons .hardNewline).trans h.reasons

end InFirst

/-- **Pushing a proper layout** leaves its spacing in the buffer. -/
theorem advanceAll_tokens (config : ShaperConfig) {l : Layout} (proper : l.IsProper) :
    (({ config } : Shaper).advanceAll l.tokens).buffer = l.spaced.tokens ∧
      (({ config } : Shaper).advanceAll l.tokens).reasons = l.reasons := by
  obtain ⟨first, rows⟩ := l
  have start : ({ config } : Shaper).InFirst [] := ⟨⟨by simp, rfl, rfl, rfl⟩, rfl, rfl⟩
  have text : .hardNewline ∉ first := proper.not_mem first List.mem_cons_self
  have read : (({ config } : Shaper).advanceAll first).InFirst first := start.advanceAll text
  cases rows with
  | nil =>
    have spaced : (Layout.mk first []).spaced = ⟨first, []⟩ := rfl
    rw [spaced, Layout.tokens_nil]
    exact ⟨read.read, read.reasons⟩
  | cons row rows =>
    obtain ⟨-, held, below⟩ := Layout.isProper_cons.1 proper
    obtain ⟨closed, reasons⟩ := read.closeLine
    have follows : Place.Follows ⟨first, true, first.length⟩ first := ⟨rfl, text, Or.inl ⟨rfl, rfl⟩⟩
    obtain ⟨started, wished⟩ := closed.advanceAll_row follows row (below.not_mem row.line List.mem_cons_self)
    rw [reasons] at wished
    obtain ⟨buffer, all⟩ := started.advanceAll_rows follows held below wished
    have pushed : ({ config } : Shaper).advanceAll (Layout.tokens ⟨first, row :: rows⟩) =
        (((({ config } : Shaper).advanceAll first).advance .hardNewline).advanceAll
          (List.replicate row.extra .hardNewline ++ row.line)).advanceAll (rows.flatMap Row.tokens) := by
      simp [Layout.tokens_cons, Row.tokens, List.replicate_succ]
    rw [pushed]
    exact ⟨buffer, all⟩

end Shaper

/-- The shaper at the end of a pass over `read` tokens. -/
def Shaper.finish (logSummary : Bool) (read : Nat) (s : Shaper) : Shaper :=
  { s with
    buffer := []
    taken := true
    log := s.log ++ if logSummary then [.passFinished read s.buffer.length s.reasons.length] else [] }

/-- A pass never fails. It returns what pushing the stream leaves in the buffer, and why. -/
theorem shape_eq_finish (config : PassConfig) (ts : List Token) :
    shape config ts =
      .ok { tokens := (({ config := config.shaper } : Shaper).advanceAll ts).buffer
            reasons := (({ config := config.shaper } : Shaper).advanceAll ts).reasons }
        ((({ config := config.shaper } : Shaper).advanceAll ts).finish config.logSummary ts.length) := by
  obtain ⟨pushed, sound⟩ := (Shaper.sound_fresh config.shaper).pushAll ts
  rw [shape, Shaper.shapeAll, Shaper.bind_eq, pushed]
  simp only
  rw [Shaper.get_bind_eq, Shaper.bind_eq, Shaper.takeTokens_eq, sound.untaken, Shaper.finish]
  cases config.logSummary with
  | true => rfl
  | false =>
    simp
    rfl

theorem shape_eq (config : PassConfig) (ts : List Token) :
    ∃ s, shape config ts =
      .ok { tokens := (({ config := config.shaper } : Shaper).advanceAll ts).buffer
            reasons := (({ config := config.shaper } : Shaper).advanceAll ts).reasons } s :=
  ⟨_, shape_eq_finish config ts⟩

/-- **A pass returns the spacing** of the stream's layout, with its reasons. -/
theorem shape_eq_spaced (config : PassConfig) (ts : List Token) :
    ∃ s, shape config ts = .ok ⟨(Layout.ofTokens ts).spaced.tokens, (Layout.ofTokens ts).reasons⟩ s := by
  obtain ⟨s, shaped⟩ := shape_eq config ts
  obtain ⟨buffer, reasons⟩ := Shaper.advanceAll_tokens config.shaper (Layout.isProper_ofTokens ts)
  rw [Layout.tokens_ofTokens] at buffer reasons
  exact ⟨s, by rw [shaped, buffer, reasons]⟩

end Interline
