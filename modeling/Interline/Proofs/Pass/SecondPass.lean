import Interline.Proofs.Pass.Spacing

/-!
# A second pass

A pass over its own result changes no token (`shape_shape`). It gives a reason again for each
blank line below a `require` line, whatever put it there first, and for no other.
-/

namespace Interline
set_option autoImplicit false

/-- How many pairs of adjacent newlines end a line with a fragment `require` after an indent, where
`line` is what was read of the line that the tokens go on with. -/
def pairsBelowRequire (line : List Token) : List Token → Nat
  | [] => 0
  | .hardNewline :: ts =>
    (if ts.head? = some .hardNewline ∧ (Line.ofTokens line).hasRequire then 1 else 0) + pairsBelowRequire [] ts
  | t :: ts => pairsBelowRequire (line ++ [t]) ts

theorem pairsBelowRequire_cons_of_ne {t : Token} (other : t ≠ .hardNewline) (line ts : List Token) :
    pairsBelowRequire line (t :: ts) = pairsBelowRequire (line ++ [t]) ts := by
  cases t <;> first | rfl | exact absurd rfl other

theorem pairsBelowRequire_append {line : List Token} (text : .hardNewline ∉ line) (before ts : List Token) :
    pairsBelowRequire before (line ++ ts) = pairsBelowRequire (before ++ line) ts := by
  induction line generalizing before with
  | nil => simp
  | cons t line ih =>
    obtain ⟨other, rest⟩ := newline_not_mem_cons.1 text
    rw [List.cons_append, pairsBelowRequire_cons_of_ne other, ih rest, List.append_assoc, List.singleton_append]

/-- Of the newlines above a row the first two make a pair that ends the line above. -/
theorem pairsBelowRequire_row {row : Row} (text : .hardNewline ∉ row.line) (bound : row.extra ≤ 1)
    (above : List Token) {ts : List Token} (held : ts ≠ [] → row.line ≠ []) :
    pairsBelowRequire above (row.tokens ++ ts) =
      (if row.extra ≠ 0 ∧ (Line.ofTokens above).hasRequire then 1 else 0) + pairsBelowRequire row.line ts := by
  have head : (row.line ++ ts).head? ≠ some .hardNewline := by
    intro newline
    cases line : row.line with
    | nil =>
      have empty : ts = [] := by
        by_contra rest
        exact held rest line
      simp [line, empty] at newline
    | cons t tail =>
      apply text
      rw [line] at newline ⊢
      cases newline
      exact List.mem_cons_self
  have rest : pairsBelowRequire [] (row.line ++ ts) = pairsBelowRequire row.line ts :=
    pairsBelowRequire_append text [] ts
  have single : pairsBelowRequire above (.hardNewline :: (row.line ++ ts)) = pairsBelowRequire row.line ts := by
    rw [pairsBelowRequire, if_neg fun both => head both.1, rest, Nat.zero_add]
  rcases Nat.le_one_iff_eq_zero_or_eq_one.1 bound with near | parted
  · have joined : row.tokens ++ ts = .hardNewline :: (row.line ++ ts) := by simp [Row.tokens, near]
    rw [joined, single, if_neg fun both => both.1 near, Nat.zero_add]
  · have joined : row.tokens ++ ts = .hardNewline :: .hardNewline :: (row.line ++ ts) := by
      simp [Row.tokens, parted, List.replicate_succ]
    rw [joined, pairsBelowRequire, pairsBelowRequire, rest]
    simp [parted]

namespace Place

theorem space_space (p : Place) (row : Row) (ends : Bool) : p.space (p.space row ends) ends = p.space row ends := by
  by_cases near : row.extra = 0
  · cases wish : p.reason? row ends with
    | none =>
      have same : p.space row ends = row := by
        rw [p.space_of_near near, wish]
        cases row
        cases near
        rfl
      rw [same, same]
    | some r =>
      rw [p.space_of_near near, wish]
      exact p.space_of_parted (by simp) ends
  · rw [p.space_of_parted near]
    exact p.space_of_parted (by simp) ends

/-- Below the rows that a pass returned, the same rows are returned again. -/
theorem spaceAll_spaceAll (p : Place) (rows : List Row) :
    (p.spaceAll ((p.spaceAll rows).map Prod.fst)).map Prod.fst = (p.spaceAll rows).map Prod.fst := by
  induction rows generalizing p with
  | nil => rfl
  | cons row rows ih =>
    have ends : (!((p.below (p.space row !rows.isEmpty)).spaceAll rows |>.map Prod.fst).isEmpty) = !rows.isEmpty := by
      cases rows <;> rfl
    simp only [spaceAll, List.map_cons, ends, space_space, ih]

/-- A row that a pass leaves as it is asks for no blank line but the one of a `require` block that it
has already. -/
theorem reason_of_space_eq {p : Place} {row : Row} {ends : Bool} (settled : p.space row ends = row) :
    row.extra ≤ 1 ∧ p.reason? row ends = if row.extra ≠ 0 ∧ (Line.ofTokens p.above).hasRequire then
      some .endOfRequireBlock else none := by
  by_cases near : row.extra = 0
  · have extra := congrArg Row.extra settled
    rw [p.space_of_near near, near] at extra
    cases wish : p.reason? row ends with
    | none => simp [near]
    | some r => simp [wish] at extra
  · have extra := congrArg Row.extra settled
    rw [p.space_of_parted near] at extra
    refine ⟨extra.ge, ?_⟩
    rw [p.reason_of_parted near, owed?]
    simp [near]

/-- The reasons for rows that a pass leaves as they are. -/
theorem reasons_of_spaceAll_eq {p : Place} {rows : List Row} (settled : (p.spaceAll rows).map Prod.fst = rows)
    (proper : Layout.IsProper ⟨p.above, rows⟩) :
    (p.spaceAll rows).filterMap Prod.snd =
      List.replicate (pairsBelowRequire p.above (rows.flatMap Row.tokens)) .endOfRequireBlock := by
  induction rows generalizing p with
  | nil => rfl
  | cons row rows ih =>
    simp only [spaceAll, List.map_cons, List.cons.injEq] at settled
    obtain ⟨here, rest⟩ := settled
    rw [here] at rest
    obtain ⟨-, held, below⟩ := Layout.isProper_cons.1 proper
    obtain ⟨bound, wish⟩ := reason_of_space_eq here
    have next : ((p.below row).spaceAll rows).filterMap Prod.snd =
        List.replicate (pairsBelowRequire row.line (rows.flatMap Row.tokens)) .endOfRequireBlock := ih rest below
    have held' : rows.flatMap Row.tokens ≠ [] → row.line ≠ [] := by
      intro more
      apply held
      rintro rfl
      exact more rfl
    rw [List.flatMap_cons, pairsBelowRequire_row (below.not_mem row.line List.mem_cons_self) bound _ held']
    simp only [spaceAll, here, List.filterMap_cons, wish, next]
    by_cases owed : row.extra ≠ 0 ∧ (Line.ofTokens p.above).hasRequire
    · rw [if_pos owed, if_pos owed, Nat.add_comm, List.replicate_succ]
    · rw [if_neg owed, if_neg owed, Nat.zero_add]

end Place

namespace Layout

theorem spaced_spaced (l : Layout) : l.spaced.spaced = l.spaced :=
  congrArg (Layout.mk l.first) (l.start.spaceAll_spaceAll l.rows)

theorem IsProper.spaced {l : Layout} (proper : l.IsProper) : l.spaced.IsProper :=
  proper.of_lines_eq l.spaced_isSpacingOf.lines

theorem reasons_spaced {l : Layout} (proper : l.IsProper) :
    l.spaced.reasons = List.replicate (pairsBelowRequire [] l.spaced.tokens) .endOfRequireBlock := by
  have text : .hardNewline ∉ l.first := proper.not_mem l.first List.mem_cons_self
  have below := Place.reasons_of_spaceAll_eq (p := l.start) (l.start.spaceAll_spaceAll l.rows) proper.spaced
  have above : pairsBelowRequire [] l.spaced.tokens = pairsBelowRequire l.first (l.spaced.rows.flatMap Row.tokens) :=
    pairsBelowRequire_append text [] _
  rw [above]
  exact below

end Layout

/-- **A second pass** returns what it was given, whatever the settings of the two. Its reasons are those
of the blank lines below a `require` line, one for each. -/
theorem shape_shape (config config' : PassConfig) (ts : List Token) :
    ∃ (out : List Token) (reasons : List Reason) (s s' : Shaper),
      shape config ts = .ok ⟨out, reasons⟩ s ∧
        shape config' out = .ok ⟨out, List.replicate (pairsBelowRequire [] out) .endOfRequireBlock⟩ s' := by
  have proper := Layout.isProper_ofTokens ts
  obtain ⟨s, first⟩ := shape_eq_spaced config ts
  obtain ⟨s', second⟩ := shape_eq_spaced config' (Layout.ofTokens ts).spaced.tokens
  rw [Layout.ofTokens_tokens proper.spaced, Layout.spaced_spaced, Layout.reasons_spaced proper] at second
  exact ⟨_, _, s, s', first, second⟩

end Interline
