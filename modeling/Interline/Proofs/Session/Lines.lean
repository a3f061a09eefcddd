import Interline.Proofs.Session.Sound

/-!
# What a session knows of the lines

A shaper knows the line being written and the line above it as they were pushed, whatever its buffer
looks like: a newline that was dropped ends a line all the same, and no blank line that went in and no
filler that was removed changes what is known (`Shaper.Knows`, `runAll_lines`). Of the buffer only the
last token matters for this, and no request but a push replaces it.
-/

namespace Interline
set_option autoImplicit false

/-- The tokens are those of the lines `closed`, each ended by a hard newline, and then of `line`, which
none ends. -/
structure IsCut (ts : List Token) (closed : List (List Token)) (line : List Token) : Prop where
  tokens : ts = closed.flatMap (· ++ [.hardNewline]) ++ line
  closed : ∀ above ∈ closed, .hardNewline ∉ above
  line : .hardNewline ∉ line

namespace IsCut

variable {ts line : List Token} {closed : List (List Token)}

theorem nil : IsCut [] [] [] :=
  ⟨rfl, by simp, by simp⟩

theorem newline (h : IsCut ts closed line) : IsCut (ts ++ [.hardNewline]) (closed ++ [line]) [] := by
  refine ⟨?_, ?_, by simp⟩
  · rw [h.tokens]
    simp
  · intro above member
    rcases List.mem_append.1 member with before | last
    · exact h.closed above before
    · exact List.mem_singleton.1 last ▸ h.line

theorem concat (h : IsCut ts closed line) {t : Token} (other : t ≠ .hardNewline) :
    IsCut (ts ++ [t]) closed (line ++ [t]) := by
  refine ⟨?_, h.closed, ?_⟩
  · rw [h.tokens, List.append_assoc]
  · simp [h.line, Ne.symm other]

/-- An empty line stands below a newline or begins the stream, so no indent comes before it. -/
theorem last_isIndent (h : IsCut ts closed line) : ts.getLast?.any Token.isIndent = line.getLast?.any Token.isIndent := by
  by_cases held : line = []
  · subst held
    rw [h.tokens]
    cases closed using List.reverseRecOn <;> simp [Token.isIndent]
  · rw [h.tokens, List.getLast?_append_of_ne_nil _ held]

theorem closed_eq_nil_iff (h : IsCut ts closed line) : closed = [] ↔ .hardNewline ∉ ts := by
  rw [h.tokens]
  cases closed with
  | nil => simp [h.line]
  | cons above closed => simp

end IsCut

/-- The facts of a line, with what the tokens below it tell. -/
def Line.followedBy (above : Line) (below : List Token) : Line :=
  { above with opensBlock := below.any fun t => deepens above.depth t.depth? }

theorem Line.followedBy_concat (above : Line) (below : List Token) (t : Token) :
    { above.followedBy below with
      opensBlock := (above.followedBy below).opensBlock || deepens above.depth t.depth? } =
        above.followedBy (below ++ [t]) := by
  simp [followedBy]

theorem Line.opensBlock_followedBy_iff (above : Line) (below : List Token) :
    (above.followedBy below).opensBlock = true ↔ ∃ depth, .indent depth ∈ below ∧ above.depth < some depth := by
  rw [followedBy, List.any_eq_true]
  constructor
  · rintro ⟨t, member, deeper⟩
    cases t with
    | indent depth => exact ⟨depth, member, deepens_iff.1 deeper⟩
    | _ => simp [Token.depth?, deepens] at deeper
  · rintro ⟨depth, member, deeper⟩
    exact ⟨_, member, deepens_iff.2 deeper⟩

namespace Shaper

variable {s s' : Shaper} {ts us line : List Token} {closed : List (List Token)}

/-- The shaper knows the facts of the last two lines of the tokens `ts`, cut into `closed` and `line`. -/
structure Knows (s : Shaper) (ts : List Token) (closed : List (List Token)) (line : List Token) : Prop where
  cut : IsCut ts closed line
  last : s.buffer.getLast? = ts.getLast?
  current : s.current = Line.ofTokens line
  previous : s.previous = closed.getLast?.map fun above => (Line.ofTokens above).followedBy line

theorem knows_fresh (config : ShaperConfig) : ({ config } : Shaper).Knows [] [] [] :=
  ⟨.nil, rfl, rfl, rfl⟩

theorem endLine_last (s : Shaper) : s.endLine.buffer.getLast? = some .hardNewline := by
  unfold endLine
  split
  next double =>
    obtain ⟨front, buffer⟩ := double
    simp [record, ← buffer]
  next => simp

namespace Knows

theorem congr (h : s.Knows ts closed line) (last : s'.buffer.getLast? = s.buffer.getLast?)
    (current : s'.current = s.current) (previous : s'.previous = s.previous) : s'.Knows ts closed line :=
  ⟨h.cut, last.trans h.last, current.trans h.current, previous.trans h.previous⟩

/-- What a token tells is known before it is written. -/
theorem note (h : s.Knows ts closed line) (t : Token) :
    (s.note t).current = Line.ofTokens (line ++ [t]) ∧
      (s.note t).previous = closed.getLast?.map fun above => (Line.ofTokens above).followedBy (line ++ [t]) := by
  refine ⟨?_, ?_⟩
  · rw [Line.ofTokens_snoc, ← h.current, ← h.cut.last_isIndent, ← h.last]
    rfl
  · rw [note_previous, h.previous, Option.map_map]
    congr 1
    funext above
    exact (Line.ofTokens above).followedBy_concat line t

theorem advance_newline (h : s.Knows ts closed line) :
    (s.advance .hardNewline).Knows (ts ++ [.hardNewline]) (closed ++ [line]) [] := by
  have written : s.advance .hardNewline = (s.makeRoom .hardNewline).endLine := by
    rw [advance, note_newline]
    rfl
  rw [written]
  refine ⟨h.cut.newline, ?_, endLine_current _, ?_⟩
  · rw [endLine_last, List.getLast?_concat]
  · rw [endLine_previous, makeRoom_current, h.current, List.getLast?_concat]
    rfl

theorem advance_of_ne (h : s.Knows ts closed line) {t : Token} (other : t ≠ .hardNewline) :
    (s.advance t).Knows (ts ++ [t]) closed (line ++ [t]) := by
  obtain ⟨current, previous⟩ := h.note t
  rw [advance, write_of_ne _ other]
  refine ⟨h.cut.concat other, ?_, ?_, ?_⟩
  · rw [List.getLast?_concat, List.getLast?_concat]
  · exact (makeRoom_current _ t).trans current
  · exact (makeRoom_previous _ t).trans previous

theorem advanceAll (h : s.Knows ts closed line) (us : List Token) :
    ∃ closed' line', (s.advanceAll us).Knows (ts ++ us) closed' line' := by
  induction us generalizing s ts closed line with
  | nil => exact ⟨closed, line, by simpa using h⟩
  | cons u us ih =>
    rw [List.append_cons, advanceAll_cons]
    by_cases newline : u = .hardNewline
    · subst newline
      exact ih h.advance_newline
    · exact ih (h.advance_of_ne newline)

/-- A blank line goes in above the last newline, so the last token stays. -/
theorem addBlankLine {front back : List Token} (h : s.Knows ts closed line) (marked : s.MarkedAt front back)
    (r : Reason) : (s.addBlankLine r).Knows ts closed line := by
  have frame := s.addBlankLine_frame r
  refine h.congr ?_ frame.2.1 frame.2.2.1
  rw [(marked.addBlankLine r).buffer, marked.buffer, List.getLast?_append_of_ne_nil _ (by simp),
    List.getLast?_append_of_ne_nil _ (by simp)]

/-- Filler goes from in front of the last token. -/
theorem dropFiller (h : s.Knows ts closed line) : s.dropFiller.Knows ts closed line := by
  cases buffer : s.buffer using List.reverseRecOn with
  | nil =>
    rw [dropFiller_of_nil buffer]
    exact h
  | append_singleton kept t =>
    rw [dropFiller_concat buffer]
    exact h.congr (by simp [buffer]) rfl rfl

/-- **One request.** -/
theorem leaves (h : s.Knows ts closed line) (left : Leaves s us s') :
    ∃ closed' line', s'.Knows (ts ++ us) closed' line' := by
  cases left with
  | pushed => exact h.advanceAll us
  | addBlankLine marked missing r =>
    rw [List.append_nil]
    exact ⟨closed, line, h.addBlankLine marked.toMarkedAt r⟩
  | dropFiller below =>
    rw [List.append_nil]
    exact ⟨closed, line, h.dropFiller⟩

/-- **A session** of regular requests, by induction on it: what a request knows is what was pushed before. -/
theorem runAll (h : s.Knows ts closed line) (sound : s.Sound) (checks : s.config.checkMark = true) {qs : List Request}
    (regular : ∀ q ∈ qs, q.isRegular = true) (fresh : ∀ step ∈ s.answerAll qs, ¬ step.IsStale) :
    ∃ closed' line', (s.runAll qs).Knows (ts ++ qs.flatMap Request.pushed) closed' line' := by
  induction qs generalizing s ts closed line with
  | nil =>
    rw [List.flatMap_nil, List.append_nil]
    exact ⟨closed, line, h⟩
  | cons q qs ih =>
    obtain ⟨first, others⟩ := List.forall_mem_cons.1 regular
    obtain ⟨ended, rest⟩ := List.forall_mem_cons.1 fresh
    have left := (sound.answer_leaves checks first).resolve_right ended
    obtain ⟨soundAfter, config⟩ := sound.reaches ((sound.answer checks first).resolve_right ended)
    have cleared : ({ s with log := [] } : Shaper).Knows ts closed line := h.congr rfl rfl rfl
    obtain ⟨closed', line', known⟩ := cleared.leaves left
    rw [List.flatMap_cons, ← List.append_assoc]
    exact ih known soundAfter (config ▸ checks) others rest

end Knows

/-- **The lines of a session.** Cut the tokens that a session of regular requests has pushed into lines,
where no request reported a stale mark. The facts of the current line sum up the tokens after the last
newline; the previous line is there once a newline was pushed, and its facts sum up the line that the
last newline ended. It opens a block when an indent of the current line is deeper than its own last one. -/
theorem runAll_lines (config : ShaperConfig) (qs : List Request) (checks : config.checkMark = true)
    (regular : ∀ q ∈ qs, q.isRegular = true) (fresh : ∀ step ∈ ({ config } : Shaper).answerAll qs, ¬ step.IsStale) :
    let ts := qs.flatMap Request.pushed
    let s := ({ config } : Shaper).runAll qs
    ∃ closed line, IsCut ts closed line ∧ s.current.Summarizes line ∧ s.current.opensBlock = false ∧
      (s.previous = none ↔ .hardNewline ∉ ts) ∧
      ∀ previous, s.previous = some previous → ∃ above, closed.getLast? = some above ∧ previous.Summarizes above ∧
        (previous.opensBlock = true ↔ ∃ depth, .indent depth ∈ line ∧ previous.depth < some depth) := by
  intro ts s
  obtain ⟨closed, line, known⟩ := (knows_fresh config).runAll (sound_fresh config) checks regular fresh
  rw [List.nil_append] at known
  refine ⟨closed, line, known.cut, ?_, ?_, ?_, ?_⟩
  · exact known.current ▸ Line.summarizes_ofTokens line
  · exact known.current ▸ rfl
  · rw [← known.cut.closed_eq_nil_iff, known.previous, Option.map_eq_none_iff, List.getLast?_eq_none_iff]
  · intro previous found
    rw [known.previous] at found
    obtain ⟨above, last, rfl⟩ := Option.map_eq_some_iff.1 found
    exact ⟨above, last, (Line.summarizes_ofTokens above).congr _, Line.opensBlock_followedBy_iff _ line⟩

/-- A session with a blank line that a `require` block asks for, filler that goes, and a newline that is
dropped. -/
theorem runAll_lines_of_mixed :
    let qs : List Request := [.clearFiller, .pushAll [.indent 0, .text "require", .hardNewline, .indent 0, .text "f",
      .comma, .delimiter ")"], .clearFiller, .push .hardNewline, .insertBlankLine .doKeyword, .push .hardNewline,
      .push .hardNewline, .pushAll [.indent 1, .endWord], .lastFour]
    let ts := qs.flatMap Request.pushed
    let s := ({} : Shaper).runAll qs
    (∀ step ∈ ({} : Shaper).answerAll qs, ¬ step.IsStale) ∧
    ∃ closed line, IsCut ts closed line ∧ s.current.Summarizes line ∧ s.current.opensBlock = false ∧
      (s.previous = none ↔ .hardNewline ∉ ts) ∧
      ∀ previous, s.previous = some previous → ∃ above, closed.getLast? = some above ∧ previous.Summarizes above ∧
        (previous.opensBlock = true ↔ ∃ depth, .indent depth ∈ line ∧ previous.depth < some depth) :=
  ⟨by decide, runAll_lines {} _ rfl (by decide) (by decide)⟩

end Shaper

end Interline
