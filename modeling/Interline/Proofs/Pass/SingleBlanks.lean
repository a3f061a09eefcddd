import Interline.Proofs.Layout.Lines
import Interline.Proofs.Pass.Spacing

/-!
# Single blank lines through a pass

A pass over a stream with no two blank lines in a row returns another such stream, with one
exception: below a line with a fragment `require` it puts a blank line on top of a line that
holds an indent alone, which is blank already (`hasSingleBlanks_shape_iff`).
-/

namespace Interline
set_option autoImplicit false

namespace Place

variable {p : Place}

theorem not_isBlank_of_hasRequire (require : (Line.ofTokens p.above).hasRequire = true) :
    p.isBlank = false := by
  by_contra blank
  rw [Bool.not_eq_false] at blank
  simp [hasRequire_of_isBlankLine (isBlankLine_of_isBlank blank)] at require

variable {row : Row} {ends : Bool} {lines lines' : List (List Token)}

/-- Below a blank line nothing is asked for. -/
theorem not_isBlank_of_reason (near : row.extra = 0) {r : Reason} (wish : p.reason? row ends = some r) :
    p.isBlank = false := by
  by_contra blank
  rw [Bool.not_eq_false] at blank
  rw [p.reason_of_near near, granted?, if_pos (Or.inr blank)] at wish
  cases wish

/-- Only a `require` block above asks for a blank line above an indent that stands alone. -/
theorem reason_indent (text : p.isBlank = false) (near : row.extra = 0) {depth : Int} (line : row.line = [.indent depth]) :
    p.reason? row true ≠ none ↔ (Line.ofTokens p.above).hasRequire = true := by
  have outside : (Line.ofTokens [.indent depth]).hasRequire = false := rfl
  rw [p.reason_of_near near, granted?, if_neg (by simp [text]), line]
  simp [firstAsked?, asked?, owed?, outside]

theorem head_indent_iff (head : lines.head? = if ends then some row.line else none) :
    (∃ depth, lines.head? = some [.indent depth]) ↔ ends = true ∧ ∃ depth, row.line = [.indent depth] := by
  rw [head]
  cases ends <;> simp

/-- A row with a row below it is not empty, so if it is blank it holds an indent. -/
theorem head_blank_iff (head : lines.head? = if ends then some row.line else none)
    (held : ends = true → row.line ≠ []) :
    lines.head?.any isBlankLine = true ↔ ends = true ∧ ∃ depth, row.line = [.indent depth] := by
  rw [head]
  cases ends with
  | false => simp
  | true => simp [isBlankLine_iff, held rfl]

/-- A line that stands right above a row. -/
theorem apart_space_of_near (near : row.extra = 0) (head : lines.head? = if ends then some row.line else none)
    (head' : lines'.head? = lines.head?) (held : ends = true → row.line ≠ [])
    (known : isBlankLine p.above = true → p.isBlank = true) (single : apart (p.above :: lines) = true) :
    apart (p.above :: (List.replicate (p.space row ends).extra [] ++ lines')) = true ↔
      ¬ ((Line.ofTokens p.above).hasRequire = true ∧ ∃ depth, lines.head? = some [.indent depth]) ∧
        apart lines' = true := by
  rw [head_indent_iff head, p.space_of_near near]
  cases wish : p.reason? row ends with
  | none =>
    -- No blank line goes in, and the two lines stay neighbours.
    have quiet : ¬ ((Line.ofTokens p.above).hasRequire = true ∧ ends = true ∧ ∃ depth, row.line = [.indent depth]) := by
      rintro ⟨require, rfl, depth, line⟩
      exact (reason_indent (not_isBlank_of_hasRequire require) near line).2 require wish
    have neighbours : (isBlankLine p.above && lines.head?.any isBlankLine) = false := by
      rw [apart_cons, Bool.and_eq_true, Bool.not_eq_true'] at single
      exact single.1
    rw [Option.toList_none, List.length_nil, List.replicate_zero, List.nil_append, apart_cons, head', neighbours]
    simp [quiet]
  | some r =>
    have text := not_isBlank_of_reason near wish
    have above : isBlankLine p.above = false := by
      by_contra blank
      rw [Bool.not_eq_false] at blank
      simp [known blank] at text
    have owed : (ends = true ∧ ∃ depth, row.line = [.indent depth]) → (Line.ofTokens p.above).hasRequire = true := by
      rintro ⟨rfl, depth, line⟩
      apply (reason_indent text near line).1
      simp [wish]
    have below : lines.head?.any isBlankLine = false ↔
        ¬ ((Line.ofTokens p.above).hasRequire = true ∧ ends = true ∧ ∃ depth, row.line = [.indent depth]) := by
      rw [← Bool.not_eq_true, head_blank_iff head held, and_iff_right_of_imp owed]
    rw [Option.toList_some, List.length_singleton, List.replicate_one, List.singleton_append, apart_cons_nil, head',
      below]
    simp [above]

/-- A line above a row, where the lines below the row may have been spaced before. Of the line above it
must be known that a pass takes it for blank when it is. -/
theorem apart_space_iff (head : lines.head? = if ends then some row.line else none)
    (head' : lines'.head? = lines.head?) (held : ends = true → row.line ≠ [])
    (known : isBlankLine p.above = true → p.isBlank = true)
    (single : apart (p.above :: (List.replicate row.extra [] ++ lines)) = true) :
    apart (p.above :: (List.replicate (p.space row ends).extra [] ++ lines')) = true ↔
      ¬ ((Line.ofTokens p.above).hasRequire = true ∧
        ∃ depth, (List.replicate row.extra [] ++ lines).head? = some [.indent depth]) ∧ apart lines' = true := by
  rcases Nat.le_one_iff_eq_zero_or_eq_one.1 (extra_le_one_of_apart single) with near | parted
  · rw [near, List.replicate_zero, List.nil_append] at single ⊢
    exact apart_space_of_near near head head' held known single
  · have spaced : (p.space row ends).extra = 1 := by rw [p.space_of_parted (by omega)]
    rw [parted, List.replicate_one, List.singleton_append] at single ⊢
    obtain ⟨text, below, -⟩ := apart_cons_nil.1 single
    rw [spaced, List.replicate_one, List.singleton_append, apart_cons_nil, head']
    simp [text, below]

/-- The lines of a row and of the rows below it, after the pass. -/
theorem closedLines_spaceAll (text : .hardNewline ∉ p.above) (row : Row) (rows : List Row) :
    let spaced := p.space row !rows.isEmpty
    closedLines (Layout.tokens ⟨p.above, (p.spaceAll (row :: rows)).map Prod.fst⟩) =
      p.above :: (List.replicate spaced.extra [] ++
        closedLines (Layout.tokens ⟨row.line, ((p.below spaced).spaceAll rows).map Prod.fst⟩)) :=
  Layout.closedLines_cons text

/-- **Single blank lines below a line**, by induction on the rows: the first pair of neighbours stands
apart after the pass unless it is a `require` line with an indent alone below it. -/
theorem apart_spaceAll_iff {rows : List Row} (proper : Layout.IsProper ⟨p.above, rows⟩)
    (known : rows ≠ [] → isBlankLine p.above = true → p.isBlank = true)
    (single : apart (closedLines (Layout.tokens ⟨p.above, rows⟩)) = true) :
    apart (closedLines (Layout.tokens ⟨p.above, (p.spaceAll rows).map Prod.fst⟩)) = true ↔
      ¬ IndentBelowRequire (closedLines (Layout.tokens ⟨p.above, rows⟩)) := by
  induction rows generalizing p with
  | nil =>
    have text := Layout.isProper_nil.1 proper
    rw [spaceAll, List.map_nil, Layout.closedLines_nil text]
    simp [apart, IndentBelowRequire]
  | cons row rows ih =>
    obtain ⟨text, held, below⟩ := Layout.isProper_cons.1 proper
    have text' : .hardNewline ∉ row.line := below.not_mem row.line List.mem_cons_self
    let next := p.below (p.space row !rows.isEmpty)
    have known' : rows ≠ [] → isBlankLine next.above = true → next.isBlank = true := by
      intro more blank
      rcases isBlankLine_iff.1 blank with empty | ⟨depth, indent⟩
      · exact absurd empty (held more)
      · rw [isBlank, indent]
        rfl
    have head : (closedLines (Layout.tokens ⟨row.line, rows⟩)).head? = if !rows.isEmpty then some row.line else none := by
      rw [Layout.head_closedLines text']
      cases rows <;> rfl
    have head' : (closedLines (Layout.tokens ⟨row.line, (next.spaceAll rows).map Prod.fst⟩)).head? =
        (closedLines (Layout.tokens ⟨row.line, rows⟩)).head? := by
      rw [Layout.head_closedLines text', Layout.head_closedLines text']
      cases rows <;> rfl
    rw [Layout.closedLines_cons text] at single ⊢
    have rest := ih below known' (apart_of_append (p.above :: List.replicate row.extra []) single)
    rw [closedLines_spaceAll text, apart_space_iff head head' (fun more => held (by simpa using more))
      (known (by simp)) single, indentBelowRequire_cons, indentBelowRequire_append (by simp), not_or]
    exact and_congr_right fun _ => rest

/-- **Single blank lines below the first line that is not blank**: the blank lines on top are passed
over, before the pass and after it. -/
theorem hasSingleBlanks_spaceAll_iff {rows : List Row} (proper : Layout.IsProper ⟨p.above, rows⟩)
    (single : hasSingleBlanks (Layout.tokens ⟨p.above, rows⟩) = true) :
    hasSingleBlanks (Layout.tokens ⟨p.above, (p.spaceAll rows).map Prod.fst⟩) = true ↔
      ¬ IndentBelowRequire (closedLines (Layout.tokens ⟨p.above, rows⟩)) := by
  induction rows generalizing p with
  | nil =>
    have text := Layout.isProper_nil.1 proper
    rw [spaceAll, List.map_nil, hasSingleBlanks, Layout.closedLines_nil text]
    simp [apart, IndentBelowRequire]
  | cons row rows ih =>
    obtain ⟨text, -, below⟩ := Layout.isProper_cons.1 proper
    unfold hasSingleBlanks at single ih ⊢
    cases blank : isBlankLine p.above with
    | true =>
      have top (extra : Nat) : ∀ line ∈ p.above :: List.replicate extra [], isBlankLine line = true := by
        simp [blank]
      rw [Layout.closedLines_cons text, ← List.cons_append] at single ⊢
      rw [List.dropWhile_append_of_pos (top row.extra)] at single
      rw [closedLines_spaceAll text, ← List.cons_append, List.dropWhile_append_of_pos (top _),
        indentBelowRequire_append (top row.extra)]
      exact ih (p := p.below (p.space row !rows.isEmpty)) below single
    | false =>
      have held (row : Row) (rows : List Row) :
          (closedLines (Layout.tokens ⟨p.above, row :: rows⟩)).dropWhile isBlankLine =
            closedLines (Layout.tokens ⟨p.above, row :: rows⟩) := by
        rw [Layout.closedLines_cons text, List.dropWhile_cons_of_neg (by simp [blank])]
      rw [held] at single
      rw [spaceAll, List.map_cons, held]
      exact apart_spaceAll_iff proper (fun _ => by simp [blank]) single

end Place

/-- **Single blank lines through a pass.** They stay single exactly when no line that holds an indent
alone stands right below a line with a fragment `require` after an indent. -/
theorem hasSingleBlanks_shape_iff (config : PassConfig) {ts : List Token} (single : hasSingleBlanks ts = true) :
    ∃ (shaped : Shaped) (s : Shaper), shape config ts = .ok shaped s ∧
      (hasSingleBlanks shaped.tokens = true ↔ ¬ IndentBelowRequire (closedLines ts)) := by
  obtain ⟨s, shaped⟩ := shape_eq_spaced config ts
  refine ⟨_, s, shaped, ?_⟩
  have proper : (Layout.ofTokens ts).IsProper := Layout.isProper_ofTokens ts
  have cut : (Layout.ofTokens ts).tokens = ts := Layout.tokens_ofTokens ts
  generalize Layout.ofTokens ts = l at proper cut ⊢
  subst cut
  exact l.start.hasSingleBlanks_spaceAll_iff proper single

theorem hasSingleBlanks_shape_requires :
    let ts : List Token := [.indent 0, .text "require", .space, .text "x", .hardNewline, .indent 0, .text "y", .hardNewline]
    hasSingleBlanks ts = true ∧ ∃ (shaped : Shaped) (s : Shaper), shape {} ts = .ok shaped s ∧
      (hasSingleBlanks shaped.tokens = true ↔ ¬ IndentBelowRequire (closedLines ts)) :=
  ⟨by decide, hasSingleBlanks_shape_iff {} (by decide)⟩

/-- The empty line that goes in below the `require` line makes two blank lines with the one that is there. -/
theorem not_hasSingleBlanks_shape :
    let ts : List Token := [.indent 0, .text "require", .hardNewline, .indent 0, .hardNewline, .indent 0, .text "x", .hardNewline]
    hasSingleBlanks ts = true ∧ ∃ (shaped : Shaped) (s : Shaper), shape {} ts = .ok shaped s ∧
      hasSingleBlanks shaped.tokens = false :=
  ⟨by decide, _, _, rfl, by decide⟩

end Interline
