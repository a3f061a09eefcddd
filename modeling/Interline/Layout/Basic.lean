import Interline.Token

/-!
# Layouts

A layout is a stream cut at its runs of hard newlines: a first line, and below it rows, each
with the number of newlines above it. `Layout.ofTokens` cuts, `Layout.tokens` joins, and
`tokens_ofTokens` says that nothing is lost between the two.
-/

namespace Interline
set_option autoImplicit false

/-- A line below another. -/
structure Row where
  /-- The newlines above the line, not counting the one that ends the line before. -/
  extra : Nat
  line : List Token
  deriving DecidableEq, Repr

def Row.tokens (r : Row) : List Token :=
  List.replicate (r.extra + 1) .hardNewline ++ r.line

structure Layout where
  first : List Token
  rows : List Row
  deriving DecidableEq, Repr

namespace Layout

def tokens (l : Layout) : List Token :=
  l.first ++ l.rows.flatMap Row.tokens

/-- Every line of the layout, the first one included. -/
def lines (l : Layout) : List (List Token) :=
  l.first :: l.rows.map Row.line

/-- No line holds a hard newline, and none between the first and the last is empty: it would
have been a longer run. -/
structure IsProper (l : Layout) : Prop where
  not_mem : ∀ line ∈ l.lines, Token.hardNewline ∉ line
  ne_nil : ∀ row ∈ l.rows.dropLast, row.line ≠ []

/-- One more hard newline in front. -/
def addNewline : Layout → Layout
  | ⟨[], row :: rows⟩ => ⟨[], { row with extra := row.extra + 1 } :: rows⟩
  | ⟨first, rows⟩ => ⟨[], ⟨0, first⟩ :: rows⟩

def ofTokens : List Token → Layout
  | [] => ⟨[], []⟩
  | .hardNewline :: ts => (ofTokens ts).addNewline
  | t :: ts => { ofTokens ts with first := t :: (ofTokens ts).first }

@[simp] theorem tokens_addNewline (l : Layout) : l.addNewline.tokens = .hardNewline :: l.tokens := by
  unfold addNewline
  split <;> simp [tokens, Row.tokens, List.replicate_succ]

@[simp] theorem tokens_ofTokens (ts : List Token) : (ofTokens ts).tokens = ts := by
  fun_induction ofTokens ts with
  | case1 => rfl
  | case2 ts ih => simp [ih]
  | case3 => simpa [tokens]

end Layout

end Interline
