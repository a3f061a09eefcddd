import Interline.Line
import Mathlib.Data.List.Induction

/-!
# Lines, token by token

`Line.read` learns from one token at a time and `Line.ofTokens` looks at a whole line. They
agree (`ofTokens_snoc`): reading one token more is looking at a line that is one token longer.
`Line.Summarizes` says of each fact what it tells about the tokens of the line.
-/

namespace Interline
set_option autoImplicit false

theorem zip_tail_snoc (ts : List Token) (t : Token) :
    (ts ++ [t]).zip (ts ++ [t]).tail = ts.zip ts.tail ++ (ts.getLast?.map fun u => (u, t)).toList := by
  induction ts with
  | nil => rfl
  | cons u ts ih =>
    cases ts with
    | nil => rfl
    | cons v ts => simpa using ih

/-- The neighbours in a list are its infixes of two. -/
theorem mem_zip_tail_iff {ts : List Token} {t u : Token} : (t, u) ∈ ts.zip ts.tail ↔ [t, u] <:+: ts := by
  induction ts with
  | nil => simp
  | cons v ts ih =>
    cases ts with
    | nil =>
      have short : ¬ [t, u] <:+: [v] := fun pair => absurd pair.length_le (by simp)
      simpa using short
    | cons w ts =>
      rw [List.infix_cons_iff, ← ih]
      simp [List.cons_prefix_cons]

namespace Line

@[simp] theorem ofTokens_nil : ofTokens [] = {} := rfl

/-- All that a token can change, in one record. -/
theorem read_eq (l : Line) (afterIndent : Bool) (t : Token) :
    l.read afterIndent t =
      { l with
        hasRequire := t == .text "require" && afterIndent || l.hasRequire
        hasEnd := t == .endWord || l.hasEnd
        hasDef := t == .defWord || l.hasDef
        hasConditional := t.isConditional || l.hasConditional
        hasDo := t == .doWord || l.hasDo
        depth := t.depth?.or l.depth } := by
  cases t
  case text fragment =>
    by_cases word : fragment = "require"
    · subst word
      cases afterIndent <;> rfl
    · have other : (Token.text fragment == .text "require") = false := by simp [word]
      rw [read, Token.fact?, if_neg (fun both => word both.2), other]
      rfl
  all_goals rfl

/-- Reading one token more is looking at a line that is one token longer. -/
theorem ofTokens_snoc (ts : List Token) (t : Token) :
    ofTokens (ts ++ [t]) = (ofTokens ts).read (ts.getLast?.any Token.isIndent) t := by
  have require : (ts.getLast?.map fun u => (u, t)).toList.any
      (fun p => p.1.isIndent && p.2 == .text "require") =
        (t == .text "require" && ts.getLast?.any Token.isIndent) := by
    cases ts.getLast? <;> simp [Bool.and_comm]
  have found (u : Token) : (ts ++ [t]).contains u = (t == u || ts.contains u) := by
    rw [Bool.eq_iff_iff]
    simp only [List.contains_iff_mem, List.mem_append, List.mem_singleton, Bool.or_eq_true, beq_iff_eq]
    rw [or_comm, eq_comm]
  have depth : (ts ++ [t]).reverse.findSome? Token.depth? =
      t.depth?.or (ts.reverse.findSome? Token.depth?) := by
    rw [List.reverse_append, List.reverse_singleton, List.singleton_append, List.findSome?_cons]
    cases t.depth? <;> rfl
  rw [read_eq]
  simp only [ofTokens, zip_tail_snoc, List.any_append, require, found, depth]
  simp [Bool.or_comm]

/-- The facts in `l`, the one about the next line aside, are those of a line with the tokens `ts`. -/
structure Summarizes (l : Line) (ts : List Token) : Prop where
  hasRequire : l.hasRequire = true ↔ ∃ depth, [.indent depth, .text "require"] <:+: ts
  hasEnd : l.hasEnd = true ↔ .endWord ∈ ts
  hasDef : l.hasDef = true ↔ .defWord ∈ ts
  hasConditional : l.hasConditional = true ↔ ∃ word, .conditional word ∈ ts
  hasDo : l.hasDo = true ↔ .doWord ∈ ts
  /-- The last indent counts. -/
  depth : ∀ depth, l.depth = some depth ↔
    ∃ before after, ts = before ++ .indent depth :: after ∧ ∀ other, .indent other ∉ after

/-- What the line below tells does not matter. -/
theorem Summarizes.congr {l : Line} {ts : List Token} (h : l.Summarizes ts) (opensBlock : Bool) :
    Summarizes { l with opensBlock } ts :=
  ⟨h.hasRequire, h.hasEnd, h.hasDef, h.hasConditional, h.hasDo, h.depth⟩

theorem hasRequire_ofTokens_iff {ts : List Token} :
    (ofTokens ts).hasRequire = true ↔ ∃ depth, [.indent depth, .text "require"] <:+: ts := by
  rw [ofTokens, List.any_eq_true]
  constructor
  · rintro ⟨⟨t, u⟩, neighbours, both⟩
    rw [Bool.and_eq_true, beq_iff_eq] at both
    obtain ⟨indent, rfl⟩ := both
    cases t with
    | indent depth => exact ⟨depth, mem_zip_tail_iff.1 neighbours⟩
    | _ => cases indent
  · rintro ⟨depth, pair⟩
    exact ⟨_, mem_zip_tail_iff.2 pair, by simp [Token.isIndent]⟩

theorem depth_ofTokens_iff {ts : List Token} {depth : Int} : (ofTokens ts).depth = some depth ↔
    ∃ before after, ts = before ++ .indent depth :: after ∧ ∀ other, .indent other ∉ after := by
  have none_iff (after : List Token) : (∀ t ∈ after, t.depth? = none) ↔ ∀ other, .indent other ∉ after := by
    constructor
    · intro shallow other member
      cases shallow _ member
    · intro absent t member
      cases t with
      | indent other => exact absurd member (absent other)
      | _ => rfl
  rw [ofTokens, List.findSome?_eq_some_iff]
  constructor
  · rintro ⟨after, t, before, split, found, shallow⟩
    have indent : t = .indent depth := by
      cases t with
      | indent d => exact congrArg Token.indent (Option.some.inj found)
      | _ => cases found
    subst indent
    refine ⟨before.reverse, after.reverse, ?_, ?_⟩
    · simpa using congrArg List.reverse split
    · exact (none_iff _).1 fun t member => shallow t (List.mem_reverse.1 member)
  · rintro ⟨before, after, rfl, absent⟩
    refine ⟨after.reverse, .indent depth, before.reverse, by simp, rfl, ?_⟩
    intro t member
    exact (none_iff after).2 absent t (List.mem_reverse.1 member)

/-- The facts of a line sum it up. -/
theorem summarizes_ofTokens (ts : List Token) : (ofTokens ts).Summarizes ts where
  hasRequire := hasRequire_ofTokens_iff
  hasEnd := List.contains_iff_mem
  hasDef := List.contains_iff_mem
  hasConditional := by
    rw [ofTokens, List.any_eq_true]
    constructor
    · rintro ⟨t, member, conditional⟩
      cases t with
      | conditional word => exact ⟨word, member⟩
      | _ => cases conditional
    · rintro ⟨word, member⟩
      exact ⟨_, member, rfl⟩
  hasDo := List.contains_iff_mem
  depth _ := depth_ofTokens_iff

end Line

/-- The line ends a conditional or a `do` block: it has an `end`, and a word that opens one of them. -/
def EndsBlock (line : List Token) : Prop :=
  .endWord ∈ line ∧ ((∃ word, .conditional word ∈ line) ∨ .doWord ∈ line)

theorem closesBlock_ofTokens_iff {line : List Token} : (Line.ofTokens line).closesBlock = true ↔ EndsBlock line := by
  have facts := Line.summarizes_ofTokens line
  rw [Line.closesBlock, Bool.and_eq_true, Bool.or_eq_true, facts.hasEnd, facts.hasConditional, facts.hasDo]
  rfl

end Interline
