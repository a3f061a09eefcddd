import Interline.Proofs.Pass.Run

/-!
# The policy, line by line

`Place.Asks` tells the five rules of the policy of a whole line, and `Layout.IsSpacingOf` how
many newlines they put between the lines of a layout. `shape_isSpacingOf` is the result: a pass
over any stream is the spacing of the one proper layout of the stream.
-/

namespace Interline
set_option autoImplicit false

def Row.newlines (r : Row) : Nat :=
  r.extra + 1

/-- The rules by which a line asks for a blank line above it, where `ends` says that a newline
ends the line. -/
inductive Place.Asks (p : Place) (line : List Token) (ends : Prop) : Prop where
  /-- A `class` or `module` opener, with no indent before it that is deeper than the line above. -/
  | scope (before after : List Token) (t : Token) (split : line = before ++ t :: after) (opener : t.opensScope = true)
      (shallow : ∀ depth, .indent depth ∈ before → ¬ (Line.ofTokens p.above).depth < some depth)
  /-- A `do` below a line that closes a block. -/
  | doWord (member : .doWord ∈ line) (closes : EndsBlock p.above)
  /-- A fresh `if` below a line that closes a block. -/
  | freshIf (member : .conditional "if" ∈ line) (closes : EndsBlock p.above)
  /-- A comment that begins the line, right below an `end`, with four tokens or more before it. -/
  | comment (contents : String) (after : List Token) (split : line = .comment contents :: after)
      (below : p.above.getLast? = some .endWord) (long : 4 ≤ p.written + 1)
  /-- A `require` block above that the line is not in. -/
  | leavesRequire (above : (Line.ofTokens p.above).hasRequire = true)
      (outside : (Line.ofTokens line).hasRequire = false) (closed : ends)

namespace Layout

/-- What stands at the lower end of a layout. -/
def bottom (l : Layout) : Place where
  above := (l.rows.getLast?.map Row.line).getD l.first
  isFirst := l.rows.isEmpty
  written := l.tokens.length

/-- What stands above row `i`. -/
def place (l : Layout) (i : Nat) : Place :=
  bottom { l with rows := l.rows.take i }

/-- `out` has the lines of `l` and the newlines of the policy: two above a row that has two or
more in `l`, or whose line asks for a blank line below a line that is not blank itself, and one
above any other. -/
structure IsSpacingOf (out l : Layout) : Prop where
  lines : out.lines = l.lines
  newlines : ∀ i row row', l.rows[i]? = some row → out.rows[i]? = some row' →
    let asked := 2 ≤ row.newlines ∨
      (out.place i).Asks row.line (i + 1 < l.rows.length) ∧ (out.place i).isBlank = false
    (asked → row'.newlines = 2) ∧ (¬ asked → row'.newlines = 1)

end Layout

namespace Place

variable {p : Place}

/-- The first wish of a line is there as soon as any of its tokens has one. -/
theorem firstAsked_ne_none_iff {before ts : List Token} :
    p.firstAsked? before ts ≠ none ↔
      ∃ front t back, ts = front ++ t :: back ∧ p.asked? (before ++ front) t ≠ none := by
  induction ts generalizing before with
  | nil => simp [firstAsked?]
  | cons u ts ih =>
    rw [firstAsked?, Ne, Option.or_eq_none_iff, not_and_or, ← Ne, ← Ne, ih]
    constructor
    · rintro (asked | ⟨front, t, back, rfl, asked⟩)
      · exact ⟨[], u, ts, rfl, by simpa using asked⟩
      · exact ⟨u :: front, t, back, rfl, by simpa using asked⟩
    · rintro ⟨front, t, back, split, asked⟩
      cases front with
      | nil =>
        cases split
        exact Or.inl (by simpa using asked)
      | cons v front =>
        cases split
        exact Or.inr ⟨front, t, back, rfl, by simpa using asked⟩

theorem shallow_iff {before : List Token} :
    p.isDeepened before = false ↔ ∀ depth, .indent depth ∈ before → ¬ (Line.ofTokens p.above).depth < some depth := by
  rw [isDeepened, List.any_eq_false]
  constructor
  · intro none depth member
    have := none _ member
    rwa [deepens_iff] at this
  · intro shallow t member
    cases t with
    | indent depth =>
      rw [deepens_iff]
      exact shallow depth member
    | _ => simp [Token.depth?, deepens]

/-- The wishes of the tokens of a line, as rules for the line. -/
theorem asks_of_asked {front back : List Token} {t : Token} {ends : Prop} (asked : p.asked? front t ≠ none) :
    p.Asks (front ++ t :: back) ends := by
  cases t with
  | moduleWord | classWord =>
    refine .scope front back _ rfl rfl (shallow_iff.1 ?_)
    by_contra deep
    rw [Bool.not_eq_false] at deep
    exact asked (if_pos deep)
  | doWord =>
    refine .doWord (by simp) (closesBlock_ofTokens_iff.1 ?_)
    by_contra closes
    simp [asked?, closes] at asked
  | conditional word =>
    by_cases both : (Line.ofTokens p.above).closesBlock = true ∧ word = "if"
    · obtain ⟨closes, rfl⟩ := both
      exact .freshIf (by simp) (closesBlock_ofTokens_iff.1 closes)
    · exact absurd (if_neg both) asked
  | comment contents =>
    by_cases all : front = [] ∧ p.above.getLast? = some .endWord ∧ 4 ≤ p.written + 1
    · obtain ⟨rfl, below, long⟩ := all
      exact .comment contents back rfl below long
    · exact absurd (if_neg all) asked
  | _ => exact absurd rfl asked

theorem reason_ne_none_iff {row : Row} {ends : Bool} (near : row.extra = 0) (text : p.isBlank = false) :
    p.reason? row ends ≠ none ↔ p.Asks row.line (ends = true) := by
  have wishes : p.reason? row ends ≠ none ↔ p.firstAsked? [] row.line ≠ none ∨ ends = true ∧ p.owed? row.line ≠ none := by
    rw [p.reason_of_near near, granted?, if_neg (by simp [text]), Ne, Option.or_eq_none_iff, not_and_or]
    cases ends <;> simp
  rw [wishes, firstAsked_ne_none_iff]
  constructor
  · rintro (⟨front, t, back, split, asked⟩ | ⟨closed, owed⟩)
    · rw [split]
      exact asks_of_asked asked
    · by_cases both : (Line.ofTokens p.above).hasRequire ∧ ¬ (Line.ofTokens row.line).hasRequire
      · exact .leavesRequire both.1 (by simpa using both.2) closed
      · exact absurd (if_neg both) owed
  · rintro (⟨before, after, t, split, opener, shallow⟩ | ⟨member, closes⟩ | ⟨member, closes⟩ |
      ⟨contents, after, split, below, long⟩ | ⟨above, outside, closed⟩)
    · left
      refine ⟨before, t, after, split, ?_⟩
      have quiet : p.isDeepened before ≠ true := Bool.eq_false_iff.1 (shallow_iff.2 shallow)
      have asked : p.asked? before t = some .classOrModule := by
        cases t with
        | moduleWord | classWord => exact if_neg quiet
        | _ => cases opener
      simp [asked]
    · left
      obtain ⟨front, back, split⟩ := List.append_of_mem member
      exact ⟨front, _, back, split, by simp [asked?, closesBlock_ofTokens_iff.2 closes]⟩
    · left
      obtain ⟨front, back, split⟩ := List.append_of_mem member
      exact ⟨front, _, back, split, by simp [asked?, closesBlock_ofTokens_iff.2 closes]⟩
    · left
      exact ⟨[], _, after, split, by simp [asked?, below, long]⟩
    · exact Or.inr ⟨closed, by simp [owed?, above, outside]⟩

/-- The newlines that the policy puts above a row. -/
theorem newlines_space (p : Place) (row : Row) (ends : Bool) :
    let asked := 2 ≤ row.newlines ∨ p.Asks row.line (ends = true) ∧ p.isBlank = false
    (asked → (p.space row ends).newlines = 2) ∧ (¬ asked → (p.space row ends).newlines = 1) := by
  by_cases near : row.extra = 0
  · have wished : 2 ≤ row.newlines ∨ p.Asks row.line (ends = true) ∧ p.isBlank = false ↔ p.reason? row ends ≠ none := by
      have one : ¬ 2 ≤ row.newlines := by simp [Row.newlines, near]
      cases blank : p.isBlank with
      | true => simp [one, reason?, near, blank]
      | false => simp [one, reason_ne_none_iff near blank]
    dsimp only
    rw [wished]
    simp [Row.newlines, space, near]
  · have two : 2 ≤ row.newlines := by rw [Row.newlines]; omega
    have spaced : (p.space row ends).newlines = 2 := by rw [p.space_of_parted near]; rfl
    exact ⟨fun _ => spaced, fun quiet => absurd (Or.inl two) quiet⟩

theorem spaceAll_lines (p : Place) (rows : List Row) :
    ((p.spaceAll rows).map Prod.fst).map Row.line = rows.map Row.line := by
  induction rows generalizing p with
  | nil => rfl
  | cons row rows ih => exact congrArg (row.line :: ·) (ih _)

end Place

namespace Layout

theorem bottom_snoc (first : List Token) (rows : List Row) (row : Row) :
    bottom ⟨first, rows ++ [row]⟩ = (bottom ⟨first, rows⟩).below row := by
  simp [bottom, Place.below, tokens, Nat.add_assoc]

/-- Each row is spaced below what the policy made of the rows above it: by induction on the rows that
are left, where `done` is what came of the others. -/
theorem spaceAll_getElem (first : List Token) (done rows : List Row) (i : Nat) {row : Row}
    (found : rows[i]? = some row) :
    let spaced := (bottom ⟨first, done⟩).spaceAll rows
    let above := place ⟨first, done ++ spaced.map Prod.fst⟩ (done.length + i)
    spaced[i]? = some (above.space row (decide (i + 1 < rows.length)),
      above.reason? row (decide (i + 1 < rows.length))) := by
  induction rows generalizing done i with
  | nil => simp at found
  | cons next rows ih =>
    let settled := (bottom ⟨first, done⟩).space next (!rows.isEmpty)
    have unfolded : (bottom ⟨first, done⟩).spaceAll (next :: rows) =
        (settled, (bottom ⟨first, done⟩).reason? next (!rows.isEmpty)) ::
          (bottom ⟨first, done ++ [settled]⟩).spaceAll rows := by
      rw [bottom_snoc]
      rfl
    cases i with
    | zero =>
      cases found
      have ends : decide (0 + 1 < (row :: rows).length) = !rows.isEmpty := by cases rows <;> simp
      have above : place ⟨first, done ++ ((bottom ⟨first, done⟩).spaceAll (row :: rows)).map Prod.fst⟩
          (done.length + 0) = bottom ⟨first, done⟩ := by
        simp [place]
      dsimp only
      rw [above, unfolded, ends]
      rfl
    | succ i =>
      have rest := ih (done ++ [settled]) i (by simpa using found)
      have index : (done ++ [settled]).length + i = done.length + (i + 1) := by
        rw [List.length_append, List.length_singleton]
        omega
      have ends : decide (i + 1 + 1 < (next :: rows).length) = decide (i + 1 < rows.length) := by simp
      dsimp only at rest ⊢
      rw [index, List.append_assoc] at rest
      rw [unfolded, ends]
      exact rest

/-- What the policy makes of row `i` of a layout, and why. -/
theorem start_spaceAll_getElem (l : Layout) {i : Nat} {row : Row} (found : l.rows[i]? = some row) :
    (l.start.spaceAll l.rows)[i]? = some ((l.spaced.place i).space row (decide (i + 1 < l.rows.length)),
      (l.spaced.place i).reason? row (decide (i + 1 < l.rows.length))) := by
  have start : bottom ⟨l.first, []⟩ = l.start := by simp [bottom, Layout.start]
  have spacedAt := spaceAll_getElem l.first [] l.rows i found
  dsimp only at spacedAt
  rw [start, List.nil_append, List.length_nil, Nat.zero_add] at spacedAt
  exact spacedAt

theorem spaced_isSpacingOf (l : Layout) : l.spaced.IsSpacingOf l := by
  constructor
  · exact congrArg (l.first :: ·) (l.start.spaceAll_lines l.rows)
  · intro i row row' found found'
    have image : l.spaced.rows[i]? = some ((l.spaced.place i).space row (decide (i + 1 < l.rows.length))) := by
      simp [Layout.spaced, l.start_spaceAll_getElem found]
    rw [Option.some.inj (found'.symm.trans image)]
    simpa only [decide_eq_true_eq] using (l.spaced.place i).newlines_space row (decide (i + 1 < l.rows.length))

/-- **The policy of a pass.** A stream is the tokens of one proper layout, and a pass over it returns
the tokens of a layout with the same lines and the newlines of the policy between them. -/
theorem shape_isSpacingOf (config : PassConfig) (ts : List Token) :
    ∃ l : Layout, (∀ l' : Layout, l'.IsProper ∧ l'.tokens = ts ↔ l' = l) ∧
      ∃ (out : Layout) (reasons : List Reason) (s : Shaper),
        shape config ts = .ok ⟨out.tokens, reasons⟩ s ∧ out.IsSpacingOf l := by
  obtain ⟨s, shaped⟩ := shape_eq_spaced config ts
  exact ⟨ofTokens ts, fun l' => isProper_and_tokens_eq_iff l' ts, _, _, s, shaped, spaced_isSpacingOf _⟩

end Layout

end Interline
