import Interline.Layout.BlankLine
import Interline.Line
import Interline.Proofs.Layout.Proper

/-!
# The closed lines of a layout

The line above a row is closed by the row's newlines, and all newlines of the row but one close
an empty line each (`closedLines_cons`). The rest of the file follows what is said of neighbouring
lines, `apart` and `IndentBelowRequire`, down such a list.
-/

namespace Interline
set_option autoImplicit false

theorem closedLines_cons_of_ne {t : Token} (other : t ≠ .hardNewline) (ts : List Token) :
    closedLines (t :: ts) = match closedLines ts with
      | [] => []
      | line :: lines => (t :: line) :: lines := by
  cases t <;> first | rfl | exact absurd rfl other

theorem closedLines_append {line : List Token} (text : .hardNewline ∉ line) (ts : List Token) :
    closedLines (line ++ .hardNewline :: ts) = line :: closedLines ts := by
  induction line with
  | nil => rfl
  | cons t line ih =>
    obtain ⟨other, rest⟩ := newline_not_mem_cons.1 text
    rw [List.cons_append, closedLines_cons_of_ne other, ih rest]

theorem closedLines_of_not_mem {line : List Token} (text : .hardNewline ∉ line) : closedLines line = [] := by
  induction line with
  | nil => rfl
  | cons t line ih =>
    obtain ⟨other, rest⟩ := newline_not_mem_cons.1 text
    rw [closedLines_cons_of_ne other, ih rest]

theorem closedLines_replicate (n : Nat) (ts : List Token) :
    closedLines (List.replicate n .hardNewline ++ ts) = List.replicate n [] ++ closedLines ts := by
  induction n with
  | zero => rfl
  | succ n ih => simpa [List.replicate_succ, closedLines] using ih

namespace Layout

variable {line : List Token} {row : Row} {rows : List Row}

theorem closedLines_nil (text : .hardNewline ∉ line) : closedLines (tokens ⟨line, []⟩) = [] := by
  rw [tokens_nil, closedLines_of_not_mem text]

theorem closedLines_cons (text : .hardNewline ∉ line) :
    closedLines (tokens ⟨line, row :: rows⟩) =
      line :: (List.replicate row.extra [] ++ closedLines (tokens ⟨row.line, rows⟩)) := by
  have joined : tokens ⟨line, row :: rows⟩ =
      line ++ .hardNewline :: (List.replicate row.extra .hardNewline ++ tokens ⟨row.line, rows⟩) := by
    simp [tokens, Row.tokens, List.replicate_succ]
  rw [joined, closedLines_append text, closedLines_replicate]

theorem head_closedLines (text : .hardNewline ∉ line) :
    (closedLines (tokens ⟨line, rows⟩)).head? = if rows = [] then none else some line := by
  cases rows with
  | nil => rw [closedLines_nil text]; rfl
  | cons row rows => rw [closedLines_cons text]; rfl

end Layout

@[simp] theorem isBlankLine_nil : isBlankLine [] = true := rfl

theorem isBlankLine_iff {line : List Token} : isBlankLine line = true ↔ line = [] ∨ ∃ depth, line = [.indent depth] := by
  unfold isBlankLine
  split
  next => simp
  next depth => simp
  next notEmpty notIndent =>
    simp only [Bool.false_eq_true, false_iff, not_or, not_exists]
    exact ⟨notEmpty, notIndent⟩

theorem hasRequire_of_isBlankLine {line : List Token} (blank : isBlankLine line = true) :
    (Line.ofTokens line).hasRequire = false := by
  rcases isBlankLine_iff.1 blank with rfl | ⟨depth, rfl⟩ <;> rfl

theorem apart_cons (line : List Token) (lines : List (List Token)) :
    apart (line :: lines) = (!(isBlankLine line && lines.head?.any isBlankLine) && apart lines) := by
  cases lines <;> simp [apart]

theorem apart_of_append (front : List (List Token)) {lines : List (List Token)} (single : apart (front ++ lines) = true) :
    apart lines = true := by
  induction front with
  | nil => exact single
  | cons line front ih =>
    rw [List.cons_append, apart_cons, Bool.and_eq_true] at single
    exact ih single.2

/-- An empty line is apart from its neighbours when neither of them is blank. -/
theorem apart_cons_nil {line : List Token} {lines : List (List Token)} :
    apart (line :: [] :: lines) = true ↔
      isBlankLine line = false ∧ lines.head?.any isBlankLine = false ∧ apart lines = true := by
  simp [apart_cons]

theorem extra_le_one_of_apart {line : List Token} {lines : List (List Token)} {extra : Nat}
    (single : apart (line :: (List.replicate extra [] ++ lines)) = true) : extra ≤ 1 := by
  match extra with
  | 0 | 1 => omega
  | extra + 2 => simp [List.replicate_succ, apart] at single

/-- A line that holds an indent alone stands right below a line with a fragment `require` after an indent. -/
def IndentBelowRequire (lines : List (List Token)) : Prop :=
  ∃ line depth, [line, [.indent depth]] <:+: lines ∧ (Line.ofTokens line).hasRequire = true

theorem indentBelowRequire_cons {line : List Token} {lines : List (List Token)} :
    IndentBelowRequire (line :: lines) ↔
      ((Line.ofTokens line).hasRequire = true ∧ ∃ depth, lines.head? = some [.indent depth]) ∨
        IndentBelowRequire lines := by
  have top (above : List Token) (depth : Int) :
      [above, [.indent depth]] <+: line :: lines ↔ above = line ∧ lines.head? = some [.indent depth] := by
    rw [List.cons_prefix_cons, List.singleton_prefix_iff_head?_eq_some]
  constructor
  · rintro ⟨above, depth, found, require⟩
    rcases List.infix_cons_iff.1 found with here | below
    · obtain ⟨rfl, next⟩ := (top above depth).1 here
      exact Or.inl ⟨require, depth, next⟩
    · exact Or.inr ⟨above, depth, below, require⟩
  · rintro (⟨require, depth, next⟩ | ⟨above, depth, below, require⟩)
    · exact ⟨line, depth, List.infix_cons_iff.2 (Or.inl ((top line depth).2 ⟨rfl, next⟩)), require⟩
    · exact ⟨above, depth, List.infix_cons_iff.2 (Or.inr below), require⟩

theorem indentBelowRequire_append {front lines : List (List Token)}
    (blank : ∀ line ∈ front, isBlankLine line = true) :
    IndentBelowRequire (front ++ lines) ↔ IndentBelowRequire lines := by
  induction front with
  | nil => rfl
  | cons line front ih =>
    simp only [List.forall_mem_cons] at blank
    rw [List.cons_append, indentBelowRequire_cons, ih blank.2]
    simp [hasRequire_of_isBlankLine blank.1]

end Interline
