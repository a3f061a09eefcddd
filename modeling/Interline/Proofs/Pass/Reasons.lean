import Interline.Proofs.Pass.Spacing

/-!
# The reasons of a pass

`Fires` tells the rules of the policy token by token, each with the reason that it gives, and
`Row.Gives` the one reason or none that a row adds to the reasons of a pass: of several tokens that
ask for the same blank line the first is reported. `shape_reasons` is the result, for any stream. The
count that the rule for comments looks at is that of the tokens in the buffer at the time.
-/

namespace Interline
set_option autoImplicit false

/-- The rules by which a token asks for a blank line above its line, where `above` is the line above,
`before` are the tokens of the line that came earlier, and the buffer holds `held` tokens. -/
inductive Fires (above before : List Token) (held : Nat) : Token → Reason → Prop where
  /-- A `class` or `module` opener, with no indent before it that is deeper than the line above. -/
  | scope (t : Token) (opener : t.opensScope = true)
      (shallow : ∀ depth, .indent depth ∈ before → ¬ (Line.ofTokens above).depth < some depth) :
      Fires above before held t .classOrModule
  | doWord (closes : EndsBlock above) : Fires above before held .doWord .doKeyword
  | freshIf (closes : EndsBlock above) : Fires above before held (.conditional "if") .conditional
  /-- A comment that begins its line, right below an `end`. -/
  | comment (contents : String) (begins : before = []) (below : above.getLast? = some .endWord) (long : 4 ≤ held) :
      Fires above before held (.comment contents) .commentAfterEnd

/-- No token of the line asks for a blank line. -/
def Quiet (above : List Token) (held : Nat) (line : List Token) : Prop :=
  ∀ before t after reason, line = before ++ t :: after → ¬ Fires above before held t reason

/-- What a row adds to the reasons of a pass. `isFirst` says that the line above is the first of the
stream, `ends` that a newline ends the row's line, and `held` is the count of the tokens in the
buffer when the row's line begins. -/
inductive Row.Gives (row : Row) (above : List Token) (isFirst ends : Prop) (held : Nat) : Option Reason → Prop where
  /-- A blank line is there already. Below a `require` line a reason is given for it all the same. -/
  | partedRequire (two : 2 ≤ row.newlines) (require : (Line.ofTokens above).hasRequire = true) :
      Gives row above isFirst ends held (some .endOfRequireBlock)
  | parted (two : 2 ≤ row.newlines) (plain : (Line.ofTokens above).hasRequire = false) :
      Gives row above isFirst ends held none
  /-- The line above is blank itself. -/
  | blank (one : row.newlines = 1) (later : ¬ isFirst) (depth : Int) (alone : above = [.indent depth]) :
      Gives row above isFirst ends held none
  /-- The first token of the line that asks. -/
  | rule (one : row.newlines = 1) (text : isFirst ∨ ∀ depth, above ≠ [.indent depth])
      (before after : List Token) (t : Token) (reason : Reason) (split : row.line = before ++ t :: after)
      (earlier : Quiet above held before) (fires : Fires above before held t reason) :
      Gives row above isFirst ends held (some reason)
  /-- A `require` block above ends with the line that no token of the row has parted from it. -/
  | leavesRequire (one : row.newlines = 1) (text : isFirst ∨ ∀ depth, above ≠ [.indent depth])
      (quiet : Quiet above held row.line) (require : (Line.ofTokens above).hasRequire = true)
      (outside : (Line.ofTokens row.line).hasRequire = false) (closed : ends) :
      Gives row above isFirst ends held (some .endOfRequireBlock)
  | nothing (one : row.newlines = 1) (text : isFirst ∨ ∀ depth, above ≠ [.indent depth])
      (quiet : Quiet above held row.line)
      (stays : ¬ ((Line.ofTokens above).hasRequire = true ∧ (Line.ofTokens row.line).hasRequire = false ∧ ends)) :
      Gives row above isFirst ends held none

namespace Place

variable {p : Place}

theorem asked_eq_some_iff {before : List Token} {t : Token} {reason : Reason} :
    p.asked? before t = some reason ↔ Fires p.above before (p.written + 1) t reason := by
  constructor
  · intro asked
    cases t with
    | moduleWord | classWord =>
      obtain ⟨quiet, same⟩ := Option.ite_none_left_eq_some.1 asked
      cases same
      exact .scope _ rfl (shallow_iff.1 (Bool.eq_false_iff.2 quiet))
    | doWord =>
      obtain ⟨closes, same⟩ := Option.ite_none_right_eq_some.1 asked
      cases same
      exact .doWord (closesBlock_ofTokens_iff.1 closes)
    | conditional word =>
      obtain ⟨⟨closes, rfl⟩, same⟩ := Option.ite_none_right_eq_some.1 asked
      cases same
      exact .freshIf (closesBlock_ofTokens_iff.1 closes)
    | comment contents =>
      obtain ⟨⟨begins, below, long⟩, same⟩ := Option.ite_none_right_eq_some.1 asked
      cases same
      exact .comment contents begins below long
    | _ => cases asked
  · rintro (⟨t, opener, shallow⟩ | closes | closes | ⟨contents, begins, below, long⟩)
    · have quiet : p.isDeepened before ≠ true := Bool.eq_false_iff.1 (shallow_iff.2 shallow)
      cases t with
      | moduleWord | classWord => exact if_neg quiet
      | _ => cases opener
    · exact if_pos (closesBlock_ofTokens_iff.2 closes)
    · exact if_pos ⟨closesBlock_ofTokens_iff.2 closes, rfl⟩
    · exact if_pos ⟨begins, below, long⟩

theorem asked_eq_none_iff {before : List Token} {t : Token} :
    p.asked? before t = none ↔ ∀ reason, ¬ Fires p.above before (p.written + 1) t reason := by
  simp [Option.eq_none_iff_forall_ne_some, asked_eq_some_iff]

theorem firstAsked_eq_none_iff {line : List Token} :
    p.firstAsked? [] line = none ↔ Quiet p.above (p.written + 1) line := by
  rw [← not_iff_not, ← Ne, firstAsked_ne_none_iff, Quiet]
  constructor
  · rintro ⟨before, t, after, split, asked⟩ quiet
    exact asked (asked_eq_none_iff.2 fun reason => quiet before t after reason split)
  · intro loud
    by_contra none
    apply loud
    intro before t after reason split fires
    exact none ⟨before, t, after, split, by simp [asked_eq_some_iff.2 fires]⟩

theorem firstAsked_append (before ts us : List Token) :
    p.firstAsked? before (ts ++ us) = (p.firstAsked? before ts).or (p.firstAsked? (before ++ ts) us) := by
  induction ts generalizing before with
  | nil => simp [firstAsked?]
  | cons t ts ih => simp [firstAsked?, ih, Option.or_assoc]

/-- The first token that asks gives the reason. -/
theorem firstAsked_eq_some_iff {line : List Token} {reason : Reason} :
    p.firstAsked? [] line = some reason ↔ ∃ before t after, line = before ++ t :: after ∧
      Quiet p.above (p.written + 1) before ∧ Fires p.above before (p.written + 1) t reason := by
  constructor
  · intro asked
    induction line using List.reverseRecOn with
    | nil => cases asked
    | append_singleton line u ih =>
      rw [firstAsked_append] at asked
      cases early : p.firstAsked? [] line with
      | some r =>
        rw [early, Option.some_or, ← early] at asked
        obtain ⟨before, t, after, rfl, quiet, fires⟩ := ih asked
        exact ⟨before, t, after ++ [u], by simp, quiet, fires⟩
      | none =>
        rw [early, Option.none_or, List.nil_append, firstAsked?, firstAsked?, Option.or_none] at asked
        exact ⟨line, u, [], rfl, firstAsked_eq_none_iff.1 early, asked_eq_some_iff.1 asked⟩
  · rintro ⟨before, t, after, rfl, quiet, fires⟩
    rw [firstAsked_append, firstAsked_eq_none_iff.2 quiet, Option.none_or, List.nil_append, firstAsked?,
      asked_eq_some_iff.2 fires, Option.some_or]

theorem isBlank_eq_false_iff : p.isBlank = false ↔ p.isFirst = true ∨ ∀ depth, p.above ≠ [.indent depth] := by
  unfold isBlank
  split
  next depth above => simp [above]
  next other => exact iff_of_true (Bool.and_false _) (Or.inr other)

theorem owed_eq_some_iff {line : List Token} {reason : Reason} : p.owed? line = some reason ↔
    ((Line.ofTokens p.above).hasRequire = true ∧ (Line.ofTokens line).hasRequire = false) ∧
      reason = .endOfRequireBlock := by
  rw [owed?, Option.ite_none_right_eq_some, Option.some_inj, Bool.not_eq_true, eq_comm (b := reason)]

theorem owed_at_end_iff {line : List Token} {ends : Bool} {reason : Reason} :
    (if ends then p.owed? line else none) = some reason ↔
      ((Line.ofTokens p.above).hasRequire = true ∧ (Line.ofTokens line).hasRequire = false ∧ ends = true) ∧
        reason = .endOfRequireBlock := by
  rw [Option.ite_none_right_eq_some, owed_eq_some_iff]
  tauto

/-- Below a line that is not blank a row asks with the first of its tokens, or else with its end. -/
theorem reason_of_text {row : Row} (near : row.extra = 0) (text : p.isBlank = false) (ends : Bool) :
    p.reason? row ends = (p.firstAsked? [] row.line).or (if ends then p.owed? row.line else none) := by
  rw [p.reason_of_near near, granted?, if_neg (by simp [text])]

section Gives

variable {row : Row} {ends : Bool} {held : Nat} {given : Option Reason}

theorem gives_of_parted (parted : row.extra ≠ 0) :
    row.Gives p.above (p.isFirst = true) (ends = true) held given ↔ p.reason? row ends = given := by
  have two : 2 ≤ row.newlines := by rw [Row.newlines]; omega
  have many (one : row.newlines = 1) : False := by omega
  rw [p.reason_of_parted parted]
  constructor
  · rintro (⟨-, require⟩ | ⟨-, plain⟩ | ⟨one⟩ | ⟨one⟩ | ⟨one⟩ | ⟨one⟩)
    · exact owed_eq_some_iff.2 ⟨⟨require, rfl⟩, rfl⟩
    · simp [owed?, plain]
    all_goals exact (many one).elim
  · rintro rfl
    cases owed : p.owed? [] with
    | none =>
      apply Row.Gives.parted two
      simpa [owed?] using owed
    | some r =>
      obtain ⟨⟨require, -⟩, rfl⟩ := owed_eq_some_iff.1 owed
      exact .partedRequire two require

theorem gives_of_blank (near : row.extra = 0) (blank : p.isBlank = true) :
    row.Gives p.above (p.isFirst = true) (ends = true) held given ↔ p.reason? row ends = given := by
  have one : row.newlines = 1 := by rw [Row.newlines, near]
  have few (two : 2 ≤ row.newlines) : False := by omega
  have above : ¬ (p.isFirst = true ∨ ∀ depth, p.above ≠ [.indent depth]) := by
    rw [← isBlank_eq_false_iff, blank]
    simp
  rw [p.reason_of_near near, granted?, if_pos (Or.inr blank)]
  constructor
  · rintro (⟨two⟩ | ⟨two⟩ | - | ⟨-, text⟩ | ⟨-, text⟩ | ⟨-, text⟩)
    · exact (few two).elim
    · exact (few two).elim
    · rfl
    all_goals exact absurd text above
  · rintro rfl
    obtain ⟨later, alone⟩ := not_or.1 above
    obtain ⟨depth, alone⟩ := not_forall_not.1 alone
    exact .blank one later depth alone

theorem gives_of_text (near : row.extra = 0) (text : p.isBlank = false) (counted : held = p.written + 1) :
    row.Gives p.above (p.isFirst = true) (ends = true) held given ↔ p.reason? row ends = given := by
  have one : row.newlines = 1 := by rw [Row.newlines, near]
  have few (two : 2 ≤ row.newlines) : False := by omega
  have above := isBlank_eq_false_iff.1 text
  subst counted
  rw [reason_of_text near text]
  constructor
  · rintro (⟨two⟩ | ⟨two⟩ | ⟨-, later, depth, alone⟩ | ⟨-, -, before, after, t, reason, split, earlier, fires⟩ |
      ⟨-, -, quiet, require, outside, closed⟩ | ⟨-, -, quiet, stays⟩)
    · exact (few two).elim
    · exact (few two).elim
    · exact (above.resolve_left later depth alone).elim
    · rw [firstAsked_eq_some_iff.2 ⟨before, t, after, split, earlier, fires⟩, Option.some_or]
    · rw [firstAsked_eq_none_iff.2 quiet, Option.none_or]
      exact owed_at_end_iff.2 ⟨⟨require, outside, closed⟩, rfl⟩
    · rw [firstAsked_eq_none_iff.2 quiet, Option.none_or, Option.eq_none_iff_forall_ne_some]
      intro r owed
      exact stays (owed_at_end_iff.1 owed).1
  · rintro rfl
    cases first : p.firstAsked? [] row.line with
    | some r =>
      obtain ⟨before, t, after, split, earlier, fires⟩ := firstAsked_eq_some_iff.1 first
      exact .rule one above before after t r split earlier fires
    | none =>
      have quiet := firstAsked_eq_none_iff.1 first
      rw [Option.none_or]
      cases owed : (if ends then p.owed? row.line else none) with
      | some r =>
        obtain ⟨⟨require, outside, closed⟩, rfl⟩ := owed_at_end_iff.1 owed
        exact .leavesRequire one above quiet require outside closed
      | none =>
        apply Row.Gives.nothing one above quiet
        intro leaves
        exact Option.some_ne_none _ ((owed_at_end_iff.2 ⟨leaves, rfl⟩).symm.trans owed)

/-- **What a row gives** is one thing exactly, and it is what the policy computes for it. -/
theorem gives_iff (counted : row.extra = 0 → held = p.written + 1) :
    row.Gives p.above (p.isFirst = true) (ends = true) held given ↔ p.reason? row ends = given := by
  by_cases near : row.extra = 0
  · cases blank : p.isBlank with
    | true => exact gives_of_blank near blank
    | false => exact gives_of_text near blank (counted near)
  · exact gives_of_parted near

end Gives

/-- Above a line that has just begun the spacing of the other lines is what it is in the whole. -/
theorem spaceAll_take (p : Place) {rows : List Row} {i : Nat} (bound : i < rows.length) :
    (p.spaceAll (rows.take i ++ [⟨0, []⟩])).map Prod.fst = ((p.spaceAll rows).map Prod.fst).take i ++ [⟨0, []⟩] := by
  induction i generalizing p rows with
  | zero =>
    have bare : p.reason? ⟨0, []⟩ false = none := by
      rw [p.reason_of_near rfl]
      simp [granted?, firstAsked?]
    simp [spaceAll, space, bare]
  | succ i ih =>
    cases rows with
    | nil => simp at bound
    | cons row rows =>
      have below : i < rows.length := Nat.lt_of_succ_lt_succ bound
      have ends : (rows.take i ++ [Row.mk 0 []]).isEmpty = rows.isEmpty := by
        rw [List.isEmpty_eq_false_iff.2 (List.ne_nil_of_length_pos (Nat.zero_lt_of_lt below))]
        simp
      simp only [List.take_succ_cons, List.cons_append, spaceAll, List.map_cons, ends, ih _ below]

end Place

namespace Layout

/-- The lines above row `i`. -/
def upTo (l : Layout) (i : Nat) : Layout :=
  { l with rows := l.rows.take i }

theorem place_above {l : Layout} {i : Nat} {above : List Token} (found : l.lines[i]? = some above) :
    (l.place i).above = above := by
  cases i with
  | zero => simpa [place, bottom, lines] using found
  | succ i =>
    have row : (l.rows[i]?).map Row.line = some above := by simpa [lines] using found
    obtain ⟨row, here, rfl⟩ := Option.map_eq_some_iff.1 row
    simp [place, bottom, List.getLast?_take, here]

theorem place_isFirst_iff {l : Layout} {i : Nat} (bound : i < l.rows.length) : (l.place i).isFirst = true ↔ i = 0 := by
  have held : l.rows ≠ [] := List.ne_nil_of_length_pos (Nat.zero_lt_of_lt bound)
  simp [place, bottom, held]

/-- The lines above a row, and a line that has just begun. -/
theorem IsProper.upTo {l : Layout} (proper : l.IsProper) {i : Nat} (bound : i < l.rows.length) :
    IsProper ⟨l.first, (l.upTo i).rows ++ [⟨0, []⟩]⟩ := by
  constructor
  · intro line member
    simp only [lines, List.map_append, List.mem_cons, List.mem_append] at member
    rcases member with rfl | member | empty
    · exact proper.not_mem l.first List.mem_cons_self
    · apply proper.not_mem line
      obtain ⟨row, among, rfl⟩ := List.mem_map.1 member
      exact List.mem_cons_of_mem _ (List.mem_map_of_mem (List.mem_of_mem_take among))
    · simp at empty
      simp [empty]
  · intro row member
    rw [List.dropLast_concat] at member
    apply proper.ne_nil row
    rw [List.dropLast_eq_take]
    exact List.take_subset_take_left _ (Nat.le_sub_one_of_lt bound) member

/-- What a shaper holds when it begins the line of row `i`, with a single newline above it. -/
theorem advanceAll_upTo (config : ShaperConfig) {l : Layout} (proper : l.IsProper) {i : Nat} (bound : i < l.rows.length) :
    (({ config } : Shaper).advanceAll ((l.upTo i).tokens ++ [.hardNewline])).buffer =
      (l.spaced.upTo i).tokens ++ [.hardNewline] := by
  have joined (first : List Token) (rows : List Row) :
      tokens ⟨first, rows ++ [⟨0, []⟩]⟩ = tokens ⟨first, rows⟩ ++ [.hardNewline] := by
    simp [tokens, Row.tokens]
  have spaced : (Layout.mk l.first ((l.upTo i).rows ++ [⟨0, []⟩])).spaced =
      ⟨l.first, (l.spaced.upTo i).rows ++ [⟨0, []⟩]⟩ :=
    congrArg (Layout.mk l.first) (l.start.spaceAll_take bound)
  have pushed := (Shaper.advanceAll_tokens config (proper.upTo bound)).1
  rw [spaced, joined, joined] at pushed
  exact pushed

theorem length_spaceAll (l : Layout) : (l.start.spaceAll l.rows).length = l.rows.length := by
  simpa using congrArg List.length (l.start.spaceAll_lines l.rows)

/-- What the policy computes for a row is what the row gives, with the tokens counted that are in the
buffer when the row's line begins. -/
theorem gives_row_iff (config : ShaperConfig) {l : Layout} (proper : l.IsProper) {i : Nat} {above : List Token}
    {row : Row} (foundAbove : l.lines[i]? = some above) (found : l.rows[i]? = some row) :
    ∃ s : Shaper, Shaper.pushAll ((l.upTo i).tokens ++ List.replicate row.newlines .hardNewline) { config } = .ok () s ∧
      ∀ reason, row.Gives above (i = 0) (i + 1 < l.rows.length) s.buffer.length reason ↔
        (l.spaced.place i).reason? row (decide (i + 1 < l.rows.length)) = reason := by
  have bound : i < l.rows.length := (List.getElem?_eq_some_iff.1 found).1
  have boundSpaced : i < l.spaced.rows.length := by
    rw [Layout.spaced, List.length_map, length_spaceAll]
    exact bound
  rw [← l.spaced_isSpacingOf.lines] at foundAbove
  refine ⟨_, ((Shaper.sound_fresh config).pushAll _).1, ?_⟩
  intro reason
  have counted (near : row.extra = 0) :
      (({ config } : Shaper).advanceAll ((l.upTo i).tokens ++ List.replicate row.newlines .hardNewline)).buffer.length =
        (l.spaced.place i).written + 1 := by
    have one : List.replicate row.newlines Token.hardNewline = [.hardNewline] := by simp [Row.newlines, near]
    rw [one, advanceAll_upTo config proper bound, List.length_append]
    rfl
  have gives : row.Gives (l.spaced.place i).above ((l.spaced.place i).isFirst = true)
      (decide (i + 1 < l.rows.length) = true) _ reason ↔ _ := Place.gives_iff counted
  simpa only [place_above foundAbove, place_isFirst_iff boundSpaced, decide_eq_true_eq] using gives

/-- **The reasons of a pass.** A stream is the tokens of one proper layout, and a pass over it reports one
reason or none for each row, in order: what the row gives and nothing else, with the tokens counted that
are in the buffer when the row's line begins. -/
theorem shape_reasons (config : PassConfig) (ts : List Token) :
    ∃ l : Layout, (∀ l' : Layout, l'.IsProper ∧ l'.tokens = ts ↔ l' = l) ∧
      ∃ (tokens : List Token) (given : List (Option Reason)) (s : Shaper),
        shape config ts = .ok ⟨tokens, given.filterMap id⟩ s ∧ given.length = l.rows.length ∧
        ∀ i above row, l.lines[i]? = some above → l.rows[i]? = some row →
          ∃ s' : Shaper,
            Shaper.pushAll ((l.upTo i).tokens ++ List.replicate row.newlines .hardNewline) { config := config.shaper } =
              .ok () s' ∧
            ∀ reason, given[i]? = some reason ↔
              row.Gives above (i = 0) (i + 1 < l.rows.length) s'.buffer.length reason := by
  obtain ⟨s, shaped⟩ := shape_eq_spaced config ts
  have proper := isProper_ofTokens ts
  refine ⟨ofTokens ts, fun l' => isProper_and_tokens_eq_iff l' ts, ?_⟩
  generalize ofTokens ts = l at shaped proper
  refine ⟨l.spaced.tokens, (l.start.spaceAll l.rows).map Prod.snd, s, ?_, ?_, ?_⟩
  · rw [shaped, List.filterMap_map]
    rfl
  · rw [List.length_map, length_spaceAll]
  · intro i above row foundAbove found
    obtain ⟨s', pushed, gives⟩ := gives_row_iff config.shaper proper foundAbove found
    refine ⟨s', pushed, ?_⟩
    intro reason
    rw [gives, List.getElem?_map, l.start_spaceAll_getElem found]
    simp

end Layout

end Interline
