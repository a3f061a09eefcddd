import Interline.Layout.Spacing
import Interline.Proofs.Layout.Lines
import Interline.Proofs.Line
import Interline.Proofs.Shaper.Mark

/-!
# Places

What stands above a row, seen from two sides. `Place.Follows` says which text a place
describes, so that a blank line in that text is a blank place. The rest takes the policy of
`Place.reason?` apart in the order in which a shaper applies it: first the wishes of the row's
own tokens, then the wish of a `require` block above, and of all of them the first that finds
no blank line there.
-/

namespace Interline
set_option autoImplicit false

theorem getLast_append_newline (front : List Token) {line : List Token} (held : line ≠ []) :
    (front ++ .hardNewline :: line).getLast? = line.getLast? := by
  rw [List.getLast?_append, List.getLast?_cons]
  cases last : line.getLast? with
  | none => exact absurd (List.getLast?_eq_none_iff.1 last) held
  | some t => rfl

theorem getLast_ne_newline {line : List Token} (text : .hardNewline ∉ line) :
    line.getLast? ≠ some .hardNewline := by
  intro newline
  exact text (List.mem_of_getLast? newline)

/-- A newline ends a blank line below another newline when the line holds an indent alone. -/
theorem endsBlank_append_newline (front : List Token) {line : List Token} (text : .hardNewline ∉ line)
    (held : line ≠ []) (written : Nat) :
    endsBlank (front ++ .hardNewline :: line) = (Place.mk line false written).isBlank := by
  match line with
  | [t] =>
    have other : t ≠ .hardNewline := by
      rintro rfl
      exact text List.mem_cons_self
    have before : (front ++ [Token.hardNewline, t]).dropLast = front ++ [.hardNewline] := by
      simp [List.dropLast_append_of_ne_nil]
    have alone : endsBlank (front ++ [.hardNewline, t]) = t.isIndent := by
      rw [endsBlank, before]
      simp [other]
    rw [alone]
    cases t <;> rfl
  | t :: u :: line =>
    have last := getLast_ne_newline text
    have before : (t :: u :: line).dropLast.getLast? ≠ some .hardNewline := by
      apply getLast_ne_newline
      intro member
      exact text (List.dropLast_subset _ member)
    rw [endsBlank, getLast_append_newline front held, List.dropLast_append_of_ne_nil (by simp),
      List.dropLast_cons_of_ne_nil (by simp), getLast_append_newline front (by simp),
      beq_eq_false_iff_ne.2 last, beq_eq_false_iff_ne.2 before]
    simp [Place.isBlank]

/-- `head` is what the buffer holds up to the end of the line above. -/
structure Place.Follows (p : Place) (head : List Token) : Prop where
  written : p.written = head.length
  text : .hardNewline ∉ p.above
  shape : p.isFirst = true ∧ head = p.above ∨
    p.isFirst = false ∧ p.above ≠ [] ∧ ∃ front, head = front ++ .hardNewline :: p.above

namespace Place.Follows

variable {p : Place} {head : List Token}

theorem getLast_eq (h : p.Follows head) : head.getLast? = p.above.getLast? := by
  rcases h.shape with ⟨-, rfl⟩ | ⟨-, held, front, rfl⟩
  · rfl
  · exact getLast_append_newline front held

/-- The newline that ends the line above ends a blank line exactly when the place is blank. -/
theorem endsBlank_eq (h : p.Follows head) : endsBlank head = p.isBlank := by
  rcases h.shape with ⟨first, rfl⟩ | ⟨later, held, front, rfl⟩
  · have last := getLast_ne_newline h.text
    have before : p.above.dropLast.getLast? ≠ some .hardNewline := by
      apply getLast_ne_newline
      intro member
      exact h.text (List.dropLast_subset _ member)
    simp [endsBlank, Place.isBlank, first, last, before]
  · rw [endsBlank_append_newline front h.text held p.written, ← later]

end Place.Follows

/-- A blank line is there already when the row has one above it, or when the line above is blank. -/
theorem Place.Follows.endsBlank_replicate {p : Place} {head : List Token} (follows : p.Follows head) (extra : Nat) :
    endsBlank (head ++ List.replicate extra .hardNewline) = true ↔ extra ≠ 0 ∨ p.isBlank = true := by
  cases extra with
  | zero => simp [follows.endsBlank_eq]
  | succ extra => simp [endsBlank, List.replicate_succ']

/-- An indent among these tokens is deeper than the line above. -/
def Place.isDeepened (p : Place) (line : List Token) : Bool :=
  line.any fun t => deepens (Line.ofTokens p.above).depth t.depth?

/-- What comes of the wish for a blank line above a row: nothing where one is there already. -/
def Place.granted? (p : Place) (extra : Nat) (asked : Option Reason) : Option Reason :=
  if extra ≠ 0 ∨ p.isBlank then none else asked

/-- Of two wishes for the same place the first one that is granted leaves nothing to the second. -/
theorem Place.granted_or (p : Place) (extra : Nat) (first second : Option Reason) :
    (p.granted? extra (first.or second)).toList = (p.granted? extra first).toList ++
      (p.granted? (extra + (p.granted? extra first).toList.length) second).toList := by
  unfold Place.granted?
  by_cases there : extra ≠ 0 ∨ p.isBlank
  · rw [if_pos there, if_pos there, if_pos (by simpa using there)]
    rfl
  · rw [if_neg there, if_neg there]
    cases first with
    | none => simp [there]
    | some r => simp

theorem Place.granted_length_le (p : Place) {extra : Nat} (bound : extra ≤ 1) (asked : Option Reason) :
    extra + (p.granted? extra asked).toList.length ≤ 1 := by
  unfold Place.granted?
  split
  · simpa using bound
  next missing =>
    have parted := not_not.1 (not_or.1 missing).1
    have one := asked.length_toList_le
    omega

/-- The wish of a `require` block that ends above the line. -/
def Place.owed? (p : Place) (line : List Token) : Option Reason :=
  if (Line.ofTokens p.above).hasRequire ∧ ¬ (Line.ofTokens line).hasRequire then some .endOfRequireBlock else none

theorem Place.isBlankLine_of_isBlank {p : Place} (blank : p.isBlank = true) : isBlankLine p.above = true := by
  unfold Place.isBlank at blank
  split at blank
  next depth above => rw [above]; rfl
  next => simp at blank

/-- A line that holds an indent alone is not in a `require` block. -/
theorem Place.owed_of_isBlank {p : Place} (blank : p.isBlank = true) (line : List Token) : p.owed? line = none := by
  have outside := hasRequire_of_isBlankLine (Place.isBlankLine_of_isBlank blank)
  simp [Place.owed?, outside]

theorem Place.granted_owed (p : Place) (line : List Token) : p.granted? 0 (p.owed? line) = p.owed? line := by
  unfold Place.granted?
  split
  next there => rw [p.owed_of_isBlank (by simpa using there)]
  next => rfl

theorem Place.reason_of_parted (p : Place) {row : Row} (parted : row.extra ≠ 0) (ends : Bool) :
    p.reason? row ends = p.owed? [] := by
  rw [Place.reason?, if_pos parted, Place.owed?]
  simp

theorem Place.space_of_parted (p : Place) {row : Row} (parted : row.extra ≠ 0) (ends : Bool) :
    p.space row ends = { row with extra := 1 } := by
  simp [Place.space, parted]

theorem Place.space_of_near (p : Place) {row : Row} (near : row.extra = 0) (ends : Bool) :
    p.space row ends = { row with extra := (p.reason? row ends).toList.length } := by
  cases wish : p.reason? row ends <;> simp [Place.space, near, wish]

theorem Place.reason_of_near (p : Place) {row : Row} (near : row.extra = 0) (ends : Bool) :
    p.reason? row ends = p.granted? 0 ((p.firstAsked? [] row.line).or (if ends then p.owed? row.line else none)) := by
  have owed : (if (Line.ofTokens p.above).hasRequire ∧ ends ∧ ¬ (Line.ofTokens row.line).hasRequire then
      some Reason.endOfRequireBlock else none) = if ends then p.owed? row.line else none := by
    cases ends <;> simp [Place.owed?]
  rw [Place.reason?, if_neg (not_not.2 near), Place.granted?, owed]
  simp

/-- What the end of its line adds to a row: the wish of a `require` block above, if nothing was granted
before. -/
theorem Place.reason_true (p : Place) (row : Row) :
    (p.reason? row true).toList = (p.reason? row false).toList ++
      (p.granted? (p.space row false).extra (p.owed? row.line)).toList := by
  by_cases near : row.extra = 0
  · have early : p.reason? row false = p.granted? 0 (p.firstAsked? [] row.line) := by
      simpa using p.reason_of_near near false
    rw [p.space_of_near near, p.reason_of_near near true, early, if_pos rfl, p.granted_or, Nat.zero_add]
  · rw [p.space_of_parted near, p.reason_of_parted near, p.reason_of_parted near]
    simp [Place.granted?]

theorem Place.space_true (p : Place) (row : Row) :
    p.space row true = ⟨(p.space row false).extra +
      (p.granted? (p.space row false).extra (p.owed? row.line)).toList.length, row.line⟩ := by
  by_cases near : row.extra = 0
  · have late := congrArg List.length (p.reason_true row)
    rw [p.space_of_near near] at late ⊢
    rw [p.space_of_near near, late, List.length_append]
  · rw [p.space_of_parted near, p.space_of_parted near]
    simp [Place.granted?]

end Interline
