import Interline.Layout.Basic

/-!
# Proper layouts

Every stream is the tokens of exactly one proper layout, the one that `Layout.ofTokens`
cuts (`isProper_ofTokens`, `ofTokens_tokens`). `isProper_cons` takes a proper layout apart
from the top, row by row.
-/

namespace Interline
set_option autoImplicit false

theorem newline_not_mem_cons {t : Token} {line : List Token} :
    .hardNewline ∉ t :: line ↔ t ≠ .hardNewline ∧ .hardNewline ∉ line := by
  rw [List.mem_cons, not_or, Ne, eq_comm]

namespace Layout

@[simp] theorem tokens_nil (first : List Token) : tokens ⟨first, []⟩ = first := by
  simp [tokens]

theorem tokens_cons (first : List Token) (row : Row) (rows : List Row) :
    tokens ⟨first, row :: rows⟩ = first ++ (row.tokens ++ rows.flatMap Row.tokens) := by
  simp [tokens]

@[simp] theorem isProper_nil {first : List Token} : IsProper ⟨first, []⟩ ↔ .hardNewline ∉ first := by
  constructor
  · intro proper
    exact proper.not_mem first List.mem_cons_self
  · intro text
    exact ⟨by simpa [lines] using text, by simp⟩

/-- A row with a row below it holds a token. -/
theorem isProper_cons {first : List Token} {row : Row} {rows : List Row} :
    IsProper ⟨first, row :: rows⟩ ↔
      .hardNewline ∉ first ∧ (rows ≠ [] → row.line ≠ []) ∧ IsProper ⟨row.line, rows⟩ := by
  constructor
  · intro ⟨not_mem, ne_nil⟩
    refine ⟨not_mem first List.mem_cons_self, ?_, ?_, ?_⟩
    · intro below
      apply ne_nil row
      rw [List.dropLast_cons_of_ne_nil below]
      exact List.mem_cons_self
    · intro line member
      exact not_mem line (List.mem_cons_of_mem _ member)
    · intro other member
      have below : rows ≠ [] := by
        rintro rfl
        simp at member
      apply ne_nil other
      rw [List.dropLast_cons_of_ne_nil below]
      exact List.mem_cons_of_mem _ member
  · intro ⟨text, held, not_mem, ne_nil⟩
    constructor
    · intro line member
      rcases List.mem_cons.1 member with rfl | member
      · exact text
      · exact not_mem line member
    · intro other member
      cases rows with
      | nil => simp at member
      | cons next rows =>
        rw [List.dropLast_cons_of_ne_nil (by simp)] at member
        rcases List.mem_cons.1 member with rfl | member
        · exact held (by simp)
        · exact ne_nil other member

/-- Whether a layout is proper depends on its lines alone. -/
theorem IsProper.of_lines_eq {out l : Layout} (proper : l.IsProper) (same : out.lines = l.lines) : out.IsProper := by
  obtain ⟨-, below⟩ := List.cons.inj same
  constructor
  · rw [same]
    exact proper.not_mem
  · intro row member
    have mapped : row.line ∈ l.rows.dropLast.map Row.line := by
      rw [List.map_dropLast, ← below, ← List.map_dropLast]
      exact List.mem_map_of_mem member
    obtain ⟨other, member', line⟩ := List.mem_map.1 mapped
    rw [← line]
    exact proper.ne_nil other member'

theorem IsProper.addNewline {l : Layout} (proper : l.IsProper) : l.addNewline.IsProper := by
  obtain ⟨first, rows⟩ := l
  cases first with
  | nil =>
    cases rows with
    | nil => exact isProper_cons.2 ⟨by simp, by simp, by simp⟩
    | cons row rows =>
      obtain ⟨text, held, below⟩ := isProper_cons.1 proper
      exact isProper_cons.2 ⟨text, held, below⟩
  | cons t first => exact isProper_cons.2 ⟨by simp, by simp, proper⟩

theorem IsProper.cons {t : Token} {l : Layout} (proper : l.IsProper) (other : t ≠ .hardNewline) :
    IsProper { l with first := t :: l.first } := by
  refine ⟨?_, proper.ne_nil⟩
  intro line member
  rcases List.mem_cons.1 member with rfl | member
  · exact newline_not_mem_cons.2 ⟨other, proper.not_mem l.first List.mem_cons_self⟩
  · exact proper.not_mem line (List.mem_cons_of_mem _ member)

theorem isProper_ofTokens (ts : List Token) : (ofTokens ts).IsProper := by
  fun_induction ofTokens ts with
  | case1 => simp
  | case2 ts ih => exact ih.addNewline
  | case3 t ts other l ih => exact ih.cons other

theorem ofTokens_cons_of_ne {t : Token} (other : t ≠ .hardNewline) (ts : List Token) :
    ofTokens (t :: ts) = { ofTokens ts with first := t :: (ofTokens ts).first } := by
  cases t <;> first | rfl | exact absurd rfl other

theorem ofTokens_append {line : List Token} (text : .hardNewline ∉ line) (ts : List Token) :
    ofTokens (line ++ ts) = { ofTokens ts with first := line ++ (ofTokens ts).first } := by
  induction line with
  | nil => rfl
  | cons t line ih =>
    obtain ⟨other, rest⟩ := newline_not_mem_cons.1 text
    rw [List.cons_append, ofTokens_cons_of_ne other, ih rest]
    rfl

theorem ofTokens_replicate {first : List Token} {rows : List Row} {ts : List Token}
    (cut : ofTokens ts = ⟨first, rows⟩) (held : rows ≠ [] → first ≠ []) (extra : Nat) :
    ofTokens (List.replicate (extra + 1) .hardNewline ++ ts) = ⟨[], ⟨extra, first⟩ :: rows⟩ := by
  induction extra with
  | zero =>
    have top : (Layout.mk first rows).addNewline = ⟨[], ⟨0, first⟩ :: rows⟩ := by
      unfold addNewline
      split
      next row rest same =>
        cases same
        exact absurd rfl (held (by simp))
      next first' rows' _ same =>
        cases same
        rfl
    simpa [ofTokens, cut] using top
  | succ extra ih =>
    rw [List.replicate_succ, List.cons_append, ofTokens, ih]
    rfl

/-- A proper layout is what its tokens are cut into. -/
theorem ofTokens_tokens {l : Layout} (proper : l.IsProper) : ofTokens l.tokens = l := by
  obtain ⟨first, rows⟩ := l
  induction rows generalizing first with
  | nil =>
    rw [tokens_nil]
    have := ofTokens_append (isProper_nil.1 proper) []
    simpa [ofTokens] using this
  | cons row rows ih =>
    obtain ⟨text, held, below⟩ := isProper_cons.1 proper
    have cut := ofTokens_replicate (ih row.line below) held row.extra
    have joined : tokens ⟨first, row :: rows⟩ =
        first ++ (List.replicate (row.extra + 1) .hardNewline ++ tokens ⟨row.line, rows⟩) := by
      simp [tokens, Row.tokens]
    rw [joined, ofTokens_append text, cut]
    simp

/-- **One proper layout** has the given tokens. -/
theorem isProper_and_tokens_eq_iff (l : Layout) (ts : List Token) :
    l.IsProper ∧ l.tokens = ts ↔ l = ofTokens ts := by
  constructor
  · rintro ⟨proper, rfl⟩
    exact (ofTokens_tokens proper).symm
  · rintro rfl
    exact ⟨isProper_ofTokens ts, tokens_ofTokens ts⟩

end Layout

end Interline
