import Interline.Proofs.Layout.Place
import Interline.Proofs.Layout.Proper
import Interline.Proofs.Shaper.Sound

/-!
# A pass, row by row

A shaper that has read a part of a row knows of the stream above it no more than a `Place`
says. `Shaper.InRow` states that for the middle of a row, and the lemmas follow a token, a
line, a row and at last all rows below the first line.
-/

namespace Interline.Shaper
set_option autoImplicit false

variable {s : Shaper} {p : Place} {head line : List Token} {extra : Nat}

/-- In the middle of a row: `extra` newlines stand above the one that ended the line above, and
`line` is the part of the row's line that was read. What is known of the line above matters only
while no blank line stands between the two. -/
structure InRow (s : Shaper) (p : Place) (head : List Token) (extra : Nat) (line : List Token) : Prop where
  marked : s.MarkedAt (head ++ List.replicate extra .hardNewline) line
  current : s.current = Line.ofTokens line
  previous : extra = 0 → s.previous = some { Line.ofTokens p.above with
    opensBlock := p.isDeepened line }

namespace InRow

/-- A newline ends the buffer while the row's line is empty, so no indent is the last token then. -/
theorem last_isIndent (h : s.InRow p head extra line) :
    s.buffer.getLast?.any Token.isIndent = line.getLast?.any Token.isIndent := by
  rw [h.marked.buffer]
  cases line with
  | nil => simp [Token.isIndent]
  | cons t line => rw [getLast_append_newline _ (by simp)]

/-- A token changes the facts of the line above by its depth only. -/
theorem note (h : s.InRow p head extra line) (t : Token) :
    (s.note t).current = Line.ofTokens (line ++ [t]) ∧
      (extra = 0 → (s.note t).previous = some { Line.ofTokens p.above with
        opensBlock := p.isDeepened (line ++ [t]) }) := by
  have current : (s.note t).current = Line.ofTokens (line ++ [t]) := by
    rw [Line.ofTokens_snoc, ← h.current, ← h.last_isIndent]
    rfl
  refine ⟨current, ?_⟩
  intro parted
  rw [note_previous, h.previous parted, Option.map_some]
  simp [Place.isDeepened]

/-- An `end` line stands right above the rest of the buffer when the row's line is still empty. -/
theorem endWord_suffix_iff (h : s.InRow p head 0 line) (follows : p.Follows head) :
    4 ≤ s.buffer.length ∧ [.endWord, .hardNewline] <:+ s.buffer ↔
      line = [] ∧ p.above.getLast? = some .endWord ∧ 4 ≤ p.written + 1 := by
  have buffer := h.marked.buffer
  rw [List.replicate_zero, List.append_nil] at buffer
  rw [buffer, pair_suffix_iff _ h.marked.last, follows.getLast_eq, follows.written]
  constructor
  · rintro ⟨long, rfl, ends⟩
    exact ⟨rfl, ends, by simpa using long⟩
  · rintro ⟨rfl, ends, long⟩
    exact ⟨by simpa using long, rfl, ends⟩

/-- **The rules**, as the shaper applies them to a token inside a row, are the rules of the place. -/
theorem due_eq (h : s.InRow p head 0 line) (follows : p.Follows head) {t : Token} (other : t ≠ .hardNewline) :
    (s.note t).due? t = p.asked? line t := by
  have previous := (h.note t).2 rfl
  have closes : Line.closesBlock { Line.ofTokens p.above with opensBlock := p.isDeepened (line ++ [t]) } =
      (Line.ofTokens p.above).closesBlock := rfl
  have opens : t.depth? = none →
      ((s.note t).previous.any fun above => !above.opensBlock) = !p.isDeepened line := by
    intro shallow
    have same : deepens (Line.ofTokens p.above).depth none = false := by simp [deepens]
    simp [previous, Place.isDeepened, shallow, same]
  cases t with
  | hardNewline => exact absurd rfl other
  | moduleWord | classWord =>
    show _ = if p.isDeepened line then none else some Reason.classOrModule
    rw [due?, opens rfl]
    cases p.isDeepened line <;> rfl
  | doWord | conditional word => simp only [due?, Place.asked?, previous, Option.any_some, closes]
  | comment contents =>
    have suffix := h.endWord_suffix_iff follows
    rw [due?, Place.asked?, note_buffer]
    exact if_congr suffix rfl rfl
  | _ => rfl

/-- A blank line that is granted goes in above the row. -/
theorem makeRoom (marked : s.MarkedAt (head ++ List.replicate extra .hardNewline) line) (follows : p.Follows head)
    (t : Token) :
    let granted := p.granted? extra (s.due? t)
    (s.makeRoom t).MarkedAt (head ++ List.replicate (extra + granted.toList.length) .hardNewline) line ∧
      (s.makeRoom t).reasons = s.reasons ++ granted.toList ∧
      (s.makeRoom t).current = s.current ∧ (s.makeRoom t).previous = s.previous := by
  have blank : s.blankAtMark = true ↔ extra ≠ 0 ∨ p.isBlank = true := by
    rw [marked.blankAtMark_eq, follows.endsBlank_replicate]
  intro granted
  by_cases there : extra ≠ 0 ∨ p.isBlank = true
  · have nothing : granted = none := if_pos there
    have same : s.makeRoom t = s := by
      unfold Shaper.makeRoom
      split
      · exact if_pos (blank.2 there)
      · rfl
    rw [nothing, same]
    exact ⟨marked, by simp, rfl, rfl⟩
  · have all : granted = s.due? t := if_neg there
    rw [all, Shaper.makeRoom]
    cases s.due? t with
    | none => exact ⟨marked, by simp, rfl, rfl⟩
    | some r =>
      simp only [if_neg (mt blank.1 there)]
      have frame := s.addBlankLine_frame r
      refine ⟨?_, rfl, frame.2.1, frame.2.2.1⟩
      simpa [List.replicate_succ'] using marked.addBlankLine r

/-- One token of the row's line. -/
theorem advance (h : s.InRow p head extra line) (follows : p.Follows head) {t : Token} (other : t ≠ .hardNewline) :
    let granted := p.granted? extra (p.asked? line t)
    (s.advance t).InRow p head (extra + granted.toList.length) (line ++ [t]) ∧
      (s.advance t).reasons = s.reasons ++ granted.toList := by
  have rules : p.granted? extra ((s.note t).due? t) = p.granted? extra (p.asked? line t) := by
    unfold Place.granted?
    split
    · rfl
    next missing =>
      obtain ⟨rfl, -⟩ := not_or.1 missing |>.imp_left not_not.1
      exact h.due_eq follows other
  intro granted
  have before : (s.note t).MarkedAt _ _ := h.marked.congr rfl rfl
  obtain ⟨marked, reasons, current, previous⟩ := makeRoom before follows t
  rw [rules] at marked reasons
  obtain ⟨noted, above⟩ := h.note t
  refine ⟨⟨marked.write other, ?_, ?_⟩, ?_⟩
  · rw [Shaper.advance, write_of_ne _ other]
    exact current.trans noted
  · intro parted
    rw [Shaper.advance, write_of_ne _ other]
    exact previous.trans (above (Nat.eq_zero_of_add_eq_zero_right parted))
  · rw [Shaper.advance, write_reasons]
    exact reasons

/-- The rest of the row's line. -/
theorem advanceAll_line (h : s.InRow p head extra line) (follows : p.Follows head) {ts : List Token}
    (text : .hardNewline ∉ ts) :
    let granted := p.granted? extra (p.firstAsked? line ts)
    (s.advanceAll ts).InRow p head (extra + granted.toList.length) (line ++ ts) ∧
      (s.advanceAll ts).reasons = s.reasons ++ granted.toList := by
  induction ts generalizing s extra line with
  | nil =>
    have nothing : p.granted? extra (p.firstAsked? line []) = none := by simp [Place.granted?, Place.firstAsked?]
    intro granted
    rw [show granted = none from nothing]
    exact ⟨by simpa using h, by simp⟩
  | cons t ts ih =>
    obtain ⟨other, text'⟩ := newline_not_mem_cons.1 text
    obtain ⟨step, reasons⟩ := h.advance follows other
    obtain ⟨rest, more⟩ := ih step text'
    intro granted
    have both : granted.toList = (p.granted? extra (p.asked? line t)).toList ++
        (p.granted? (extra + (p.granted? extra (p.asked? line t)).toList.length)
          (p.firstAsked? (line ++ [t]) ts)).toList := p.granted_or extra _ _
    refine ⟨?_, ?_⟩
    · rw [both, List.length_append, ← Nat.add_assoc]
      simpa using rest
    · rw [both, ← List.append_assoc, ← reasons]
      exact more

theorem due_newline (h : s.InRow p head extra line) :
    p.granted? extra (s.due? .hardNewline) = p.granted? extra (p.owed? line) := by
  unfold Place.granted?
  split
  · rfl
  next missing =>
    obtain ⟨parted, -⟩ := not_or.1 missing
    rw [due?, h.previous (not_not.1 parted), h.current]
    rfl

/-- A newline that ends the row's line settles the row. -/
theorem closeLine (h : s.InRow p head extra line) (follows : p.Follows head) (held : line ≠ []) :
    let granted := p.granted? extra (p.owed? line)
    let row : Row := ⟨extra + granted.toList.length, line⟩
    (s.advance .hardNewline).InRow (p.below row) (head ++ row.tokens) 0 [] ∧
      (p.below row).Follows (head ++ row.tokens) ∧
      (s.advance .hardNewline).reasons = s.reasons ++ granted.toList := by
  intro granted row
  obtain ⟨marked, reasons, current, -⟩ := makeRoom h.marked follows .hardNewline
  rw [h.due_newline] at marked reasons
  have ended := marked.endLine_of_single fun empty => absurd empty held
  have joined : head ++ List.replicate row.extra .hardNewline ++ .hardNewline :: line = head ++ row.tokens := by
    simp [Row.tokens, row, List.replicate_succ']
  refine ⟨⟨?_, ?_, ?_⟩, ⟨?_, h.marked.last, Or.inr ⟨rfl, held, head ++ List.replicate row.extra .hardNewline, ?_⟩⟩, ?_⟩
  · rw [List.replicate_zero, List.append_nil, ← joined, Shaper.advance, note_newline]
    exact ended
  · rw [Shaper.advance, note_newline]
    exact endLine_current _
  · intro _
    rw [Shaper.advance, note_newline]
    exact (endLine_previous _).trans (congrArg some (current.trans h.current))
  · simp [Place.below, follows.written]
  · exact joined.symm
  · rw [Shaper.advance, note_newline, write_reasons]
    exact reasons

/-- A second newline makes the blank line, with or without the help of a `require` block above, and
a third changes nothing. -/
theorem doubleNewline (h : s.InRow p head extra []) (follows : p.Follows head) (bound : extra ≤ 1) :
    (s.advance .hardNewline).InRow p head 1 [] ∧
      (s.advance .hardNewline).reasons = s.reasons ++ (p.granted? extra (p.owed? [])).toList := by
  obtain ⟨marked, reasons, -, -⟩ := makeRoom h.marked follows .hardNewline
  rw [h.due_newline] at marked reasons
  have total := p.granted_length_le bound (p.owed? [])
  refine ⟨⟨?_, ?_, by simp⟩, ?_⟩
  · rw [Shaper.advance, note_newline]
    rcases Nat.le_one_iff_eq_zero_or_eq_one.1 total with none | one
    · rw [none, List.replicate_zero, List.append_nil] at marked
      exact marked.endLine_of_single fun _ => follows.getLast_eq ▸ getLast_ne_newline follows.text
    · rw [one] at marked
      exact marked.endLine_of_double (by simp)
  · rw [Shaper.advance, note_newline]
    exact endLine_current _
  · rw [Shaper.advance, note_newline, write_reasons]
    exact reasons

/-- The newlines of a row after the one that ended the line above. -/
theorem advanceAll_newlines (h : s.InRow p head 0 []) (follows : p.Follows head) (n : Nat) :
    (s.advanceAll (List.replicate (n + 1) .hardNewline)).InRow p head 1 [] ∧
      (s.advanceAll (List.replicate (n + 1) .hardNewline)).reasons = s.reasons ++ (p.owed? []).toList := by
  induction n with
  | zero =>
    rw [← p.granted_owed]
    exact h.doubleNewline follows (Nat.zero_le 1)
  | succ n ih =>
    obtain ⟨blank, reasons⟩ := ih
    obtain ⟨again, same⟩ := blank.doubleNewline follows (Nat.le_refl 1)
    rw [List.replicate_succ', advanceAll_append]
    exact ⟨again, by simpa [Place.granted?, reasons] using same⟩

/-- **A row**, from the newline that ended the line above to the end of its own line. Whether the line
ends is not known yet, so a `require` block above may still ask for a blank line. -/
theorem advanceAll_row (h : s.InRow p head 0 []) (follows : p.Follows head) (row : Row)
    (text : .hardNewline ∉ row.line) :
    let s' := s.advanceAll (List.replicate row.extra .hardNewline ++ row.line)
    s'.InRow p head (p.space row false).extra row.line ∧
      s'.reasons = s.reasons ++ (p.reason? row false).toList := by
  rw [advanceAll_append]
  cases parted : row.extra with
  | zero =>
    obtain ⟨read, reasons⟩ := h.advanceAll_line follows text
    have all : p.reason? row false = p.granted? 0 (p.firstAsked? [] row.line) := by
      simpa using p.reason_of_near parted false
    rw [p.space_of_near parted, all]
    exact ⟨by simpa using read, by simpa using reasons⟩
  | succ n =>
    obtain ⟨blank, owed⟩ := h.advanceAll_newlines follows n
    obtain ⟨read, reasons⟩ := blank.advanceAll_line follows text
    have nothing : p.granted? 1 (p.firstAsked? [] row.line) = none := by simp [Place.granted?]
    rw [nothing] at read reasons
    rw [p.space_of_parted (by omega), p.reason_of_parted (by omega), ← owed]
    exact ⟨by simpa using read, by simpa using reasons⟩

/-- The newline below a row settles it, as a row whose line ends. -/
theorem settle {row : Row} (h : s.InRow p head (p.space row false).extra row.line) (follows : p.Follows head)
    (held : row.line ≠ []) {rs : List Reason} (reasons : s.reasons = rs ++ (p.reason? row false).toList) :
    (s.advance .hardNewline).InRow (p.below (p.space row true)) (head ++ (p.space row true).tokens) 0 [] ∧
      (p.below (p.space row true)).Follows (head ++ (p.space row true).tokens) ∧
      (s.advance .hardNewline).reasons = rs ++ (p.reason? row true).toList := by
  obtain ⟨below, next, more⟩ := h.closeLine follows held
  rw [p.space_true, p.reason_true, ← List.append_assoc, ← reasons]
  exact ⟨below, next, more⟩

/-- **All rows below**, by induction on them: the place and the text above the next row stand for all
that came before it. -/
theorem advanceAll_rows {row : Row} {rows : List Row} (h : s.InRow p head (p.space row false).extra row.line)
    (follows : p.Follows head) (held : rows ≠ [] → row.line ≠ []) (proper : Layout.IsProper ⟨row.line, rows⟩)
    {rs : List Reason} (reasons : s.reasons = rs ++ (p.reason? row false).toList) :
    (s.advanceAll (rows.flatMap Row.tokens)).buffer =
        head ++ ((p.spaceAll (row :: rows)).map Prod.fst).flatMap Row.tokens ∧
      (s.advanceAll (rows.flatMap Row.tokens)).reasons = rs ++ (p.spaceAll (row :: rows)).filterMap Prod.snd := by
  induction rows generalizing s p head row rs with
  | nil =>
    refine ⟨?_, ?_⟩
    · have line : (p.space row false).line = row.line := rfl
      simp [h.marked.buffer, Place.spaceAll, Row.tokens, line, List.replicate_succ']
    · rw [List.flatMap_nil, advanceAll_nil, reasons]
      cases wish : p.reason? row false <;> simp [Place.spaceAll, wish]
  | cons next rows ih =>
    obtain ⟨-, heldNext, below⟩ := Layout.isProper_cons.1 proper
    obtain ⟨settled, follows', reasons'⟩ := h.settle follows (held (by simp)) reasons
    obtain ⟨read, more⟩ := settled.advanceAll_row follows' next (below.not_mem next.line List.mem_cons_self)
    rw [reasons'] at more
    obtain ⟨buffer, all⟩ := ih read follows' heldNext below more
    have pushed : s.advanceAll ((next :: rows).flatMap Row.tokens) =
        ((s.advance .hardNewline).advanceAll (List.replicate next.extra .hardNewline ++ next.line)).advanceAll
          (rows.flatMap Row.tokens) := by
      simp [Row.tokens, List.replicate_succ]
    have spaced : p.spaceAll (row :: next :: rows) = (p.space row true, p.reason? row true) ::
        (p.below (p.space row true)).spaceAll (next :: rows) := rfl
    rw [pushed, spaced, buffer, all]
    refine ⟨by simp, ?_⟩
    cases p.reason? row true <;> simp

end InRow

end Interline.Shaper
