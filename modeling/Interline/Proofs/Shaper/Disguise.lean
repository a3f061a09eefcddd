import Interline.Proofs.Shaper.Sound

/-!
# What the rules see of a token

The rules know the words `require` and `if` and no other, and of two depths only which is the greater.
`Token.role` is what they see of a token, and a disguise (`Disguise f g`) changes the rest: it keeps the
roles, with the depths moved by an increasing `g`. A shaper that is sent the tokens in disguise does what
it does with the plain ones; `Shaper.Disguised` relates the two states, and each update keeps the relation.
-/

namespace Interline
set_option autoImplicit false

inductive Role where
  | newline
  | indent (depth : Int)
  | require
  | comment
  /-- A `class` or `module` opener. -/
  | scope
  | doWord
  | endWord
  /-- The `if` that begins a statement. -/
  | freshIf
  | conditional
  /-- No rule asks for it. -/
  | plain
  deriving DecidableEq, Repr

namespace Role

def depth? : Role → Option Int
  | indent depth => some depth
  | _ => none

/-- The same role at another depth. -/
def move (g : Int → Int) : Role → Role
  | indent depth => indent (g depth)
  | role => role

theorem depth_move (g : Int → Int) (role : Role) : (role.move g).depth? = role.depth?.map g := by
  cases role <;> rfl

/-- A role without a depth is the same after a move as before it. -/
theorem move_beq (g : Int → Int) (role : Role) {seen : Role} (shallow : seen.depth? = none) :
    (role.move g == seen) = (role == seen) := by
  cases role with
  | indent depth => cases seen <;> first | rfl | cases shallow
  | _ => rfl

end Role

namespace Token

def role : Token → Role
  | hardNewline => .newline
  | indent depth => .indent depth
  | text fragment => if fragment = "require" then .require else .plain
  | comment _ => .comment
  | moduleWord | classWord => .scope
  | doWord => .doWord
  | endWord => .endWord
  | conditional word => if word = "if" then .freshIf else .conditional
  | defWord | comma | space | delimiter _ | keyword _ | softNewline => .plain

theorem depth_role (t : Token) : t.role.depth? = t.depth? := by
  cases t with
  | text fragment => by_cases word : fragment = "require" <;> simp [role, word, Role.depth?, depth?]
  | conditional word => by_cases fresh : word = "if" <;> simp [role, fresh, Role.depth?, depth?]
  | _ => rfl

theorem isIndent_eq (t : Token) : t.isIndent = t.role.depth?.isSome := by
  rw [depth_role]
  cases t <;> rfl

/-- A newline and an `end` are alone in their roles. -/
theorem role_eq_role_iff {u : Token} (alone : u = .hardNewline ∨ u = .endWord) (t : Token) :
    t.role = u.role ↔ t = u := by
  rcases alone with rfl | rfl
  all_goals
    cases t with
    | text fragment => by_cases word : fragment = "require" <;> simp [role, word]
    | conditional word => by_cases fresh : word = "if" <;> simp [role, fresh]
    | _ => simp [role]

end Token

/-- What a line learns from a token, by the token's role: all but a definition. -/
theorem Line.read_eq_role (l : Line) (afterIndent : Bool) (t : Token) :
    l.read afterIndent t =
      { l with
        hasRequire := t.role == .require && afterIndent || l.hasRequire
        hasEnd := t.role == .endWord || l.hasEnd
        hasDef := t == .defWord || l.hasDef
        hasConditional := (t.role == .freshIf || t.role == .conditional) || l.hasConditional
        hasDo := t.role == .doWord || l.hasDo
        depth := t.role.depth?.or l.depth } := by
  rw [Line.read_eq, Token.depth_role]
  cases t with
  | text fragment =>
    by_cases word : fragment = "require"
    · subst word
      rfl
    · have plain : (Token.text fragment).role = .plain := if_neg word
      have other : (Token.text fragment == .text "require") = false := by simp [word]
      rw [plain, other]
      rfl
  | conditional word =>
    by_cases fresh : word = "if"
    · subst fresh
      rfl
    · have other : (Token.conditional word).role = .conditional := if_neg fresh
      rw [other]
      rfl
  | _ => rfl

/-- The rules, by the token's role. -/
theorem Shaper.due_eq_role (s : Shaper) (t : Token) :
    s.due? t = match t.role with
      | .newline =>
        if s.previous.any (·.hasRequire) ∧ ¬ s.current.hasRequire then some .endOfRequireBlock else none
      | .scope => if s.previous.any (!·.opensBlock) then some .classOrModule else none
      | .doWord => if s.previous.any (·.closesBlock) then some .doKeyword else none
      | .freshIf => if s.previous.any (·.closesBlock) then some .conditional else none
      | .comment =>
        if 4 ≤ s.buffer.length ∧ [.endWord, .hardNewline] <:+ s.buffer then some .commentAfterEnd else none
      | _ => none := by
  cases t with
  | text fragment => by_cases word : fragment = "require" <;> simp [due?, Token.role, word]
  | conditional word => by_cases fresh : word = "if" <;> simp [due?, Token.role, fresh]
  | _ => rfl

/-- `f` keeps what the rules see of each token, with the depths moved by `g`. A newline, an `end`, a `do`, a
`require` and a fresh `if` are alone in their roles, so `f` fixes them. -/
structure Disguise (f : Token → Token) (g : Int → Int) : Prop where
  increasing : ∀ d e, d < e → g d < g e
  role : ∀ t, (f t).role = t.role.move g

variable {f : Token → Token} {g : Int → Int}

namespace Disguise

theorem isIndent (d : Disguise f g) (t : Token) : (f t).isIndent = t.isIndent := by
  rw [Token.isIndent_eq, Token.isIndent_eq, d.role, Role.depth_move, Option.isSome_map]

theorem any_isIndent (d : Disguise f g) (found : Option Token) :
    (found.map f).any Token.isIndent = found.any Token.isIndent := by
  cases found with
  | none => rfl
  | some t => exact d.isIndent t

theorem depth (d : Disguise f g) (t : Token) : (f t).depth? = t.depth?.map g := by
  rw [← Token.depth_role, ← Token.depth_role, d.role, Role.depth_move]

theorem lt_iff (d : Disguise f g) (above depth : Int) : g above < g depth ↔ above < depth := by
  constructor
  · intro moved
    rcases Int.lt_trichotomy above depth with less | rfl | more
    · exact less
    · omega
    · have back := d.increasing depth above more
      omega
  · exact d.increasing above depth

theorem deepens (d : Disguise f g) (above depth : Option Int) :
    Interline.deepens (above.map g) (depth.map g) = Interline.deepens above depth := by
  cases above <;> cases depth <;> simp [Interline.deepens, d.lt_iff]

theorem eq_iff (d : Disguise f g) {u : Token} (alone : u = .hardNewline ∨ u = .endWord) (t : Token) :
    f t = u ↔ t = u := by
  have shallow : u.role.depth? = none := by rcases alone with rfl | rfl <;> rfl
  rw [← Token.role_eq_role_iff alone, ← Token.role_eq_role_iff alone, d.role, ← beq_iff_eq,
    Role.move_beq g _ shallow, beq_iff_eq]

theorem newline (d : Disguise f g) : f .hardNewline = .hardNewline :=
  (d.eq_iff (Or.inl rfl) _).2 rfl

theorem map_eq_iff (d : Disguise f g) {run : List Token} (alone : ∀ u ∈ run, u = .hardNewline ∨ u = .endWord)
    (ts : List Token) : ts.map f = run ↔ ts = run := by
  induction run generalizing ts with
  | nil => exact List.map_eq_nil_iff
  | cons u run ih =>
    obtain ⟨first, others⟩ := List.forall_mem_cons.1 alone
    cases ts with
    | nil => simp
    | cons t ts => rw [List.map_cons, List.cons.injEq, List.cons.injEq, d.eq_iff first, ih others]

/-- Newlines and `end`s end the text in disguise as they end the plain one. -/
theorem suffix_iff (d : Disguise f g) {run : List Token} (alone : ∀ u ∈ run, u = .hardNewline ∨ u = .endWord)
    (ts : List Token) : run <:+ ts.map f ↔ run <:+ ts := by
  constructor
  · rintro ⟨before, split⟩
    obtain ⟨front, back, rfl, -, mapped⟩ := List.map_eq_append_iff.1 split.symm
    exact ⟨front, by rw [(d.map_eq_iff alone back).1 mapped]⟩
  · intro suffix
    rw [← (d.map_eq_iff alone run).2 rfl]
    exact suffix.map f

end Disguise

namespace Line

/-- The facts that a line learns from its tokens and from the tokens in disguise. A definition is told
by a token that may be any other plain one in disguise. -/
structure Disguised (g : Int → Int) (l l' : Line) : Prop where
  hasRequire : l'.hasRequire = l.hasRequire
  hasEnd : l'.hasEnd = l.hasEnd
  hasConditional : l'.hasConditional = l.hasConditional
  hasDo : l'.hasDo = l.hasDo
  depth : l'.depth = l.depth.map g
  opensBlock : l'.opensBlock = l.opensBlock

theorem disguised_empty (g : Int → Int) : Disguised g {} {} :=
  ⟨rfl, rfl, rfl, rfl, rfl, rfl⟩

variable {l l' : Line}

theorem Disguised.closesBlock (h : Disguised g l l') : l'.closesBlock = l.closesBlock := by
  rw [Line.closesBlock, Line.closesBlock, h.hasEnd, h.hasConditional, h.hasDo]

theorem Disguised.read (h : Disguised g l l') (d : Disguise f g) (afterIndent : Bool) (t : Token) :
    Disguised g (l.read afterIndent t) (l'.read afterIndent (f t)) := by
  have same {seen : Role} (shallow : seen.depth? = none) : ((f t).role == seen) = (t.role == seen) := by
    rw [d.role, Role.move_beq g _ shallow]
  rw [read_eq_role, read_eq_role]
  constructor
  · show (_ || _) = (_ || _)
    rw [same rfl, h.hasRequire]
  · show (_ || _) = (_ || _)
    rw [same rfl, h.hasEnd]
  · show (_ || _) = (_ || _)
    rw [same rfl, same rfl, h.hasConditional]
  · show (_ || _) = (_ || _)
    rw [same rfl, h.hasDo]
  · show ((f t).role.depth?.or l'.depth) = (t.role.depth?.or l.depth).map g
    rw [d.role, Role.depth_move, h.depth]
    cases t.role.depth? <;> rfl
  · exact h.opensBlock

end Line

namespace Shaper

/-- The states after a text and after the text in disguise. -/
structure Disguised (f : Token → Token) (g : Int → Int) (s s' : Shaper) : Prop where
  config : s'.config = s.config
  buffer : s'.buffer = s.buffer.map f
  mark : s'.mark = s.mark
  current : Line.Disguised g s.current s'.current
  previous : Option.Rel (Line.Disguised g) s.previous s'.previous
  reasons : s'.reasons = s.reasons
  log : s'.log = s.log

variable {s s' : Shaper}

namespace Disguised

theorem length (h : Disguised f g s s') : s'.buffer.length = s.buffer.length := by
  rw [h.buffer, List.length_map]

theorem suffix_iff (h : Disguised f g s s') (d : Disguise f g) {run : List Token}
    (alone : ∀ u ∈ run, u = .hardNewline ∨ u = .endWord) : run <:+ s'.buffer ↔ run <:+ s.buffer := by
  rw [h.buffer]
  exact d.suffix_iff alone s.buffer

theorem slot (h : Disguised f g s s') (index : Int) : s'.slot? index = (s.slot? index).map f := by
  unfold slot?
  split
  · rw [h.buffer, List.getElem?_map]
  · rfl

theorem blankAtMark (h : Disguised f g s s') (d : Disguise f g) : s'.blankAtMark = s.blankAtMark := by
  have newline (found : Option Token) : (found.map f == some .hardNewline) = (found == some .hardNewline) := by
    rw [Bool.eq_iff_iff]
    cases found <;> simp [d.eq_iff]
  rw [Shaper.blankAtMark, Shaper.blankAtMark, h.mark, h.slot, h.slot, h.slot, newline, newline, newline,
    d.any_isIndent]

/-- What the rules ask of the line above. -/
theorem previous_any (h : Disguised f g s s') {asks : Line → Bool}
    (same : ∀ l l', Line.Disguised g l l' → asks l' = asks l) : s'.previous.any asks = s.previous.any asks := by
  have above := h.previous
  generalize s.previous = before, s'.previous = before' at above
  cases above with
  | none => rfl
  | some above => exact same _ _ above

theorem due (h : Disguised f g s s') (d : Disguise f g) (t : Token) : s'.due? (f t) = s.due? t := by
  have ends : [.endWord, .hardNewline] <:+ s'.buffer ↔ [.endWord, .hardNewline] <:+ s.buffer :=
    h.suffix_iff d (by simp)
  have require := h.previous_any fun _ _ above => above.hasRequire
  have opens : s'.previous.any (!·.opensBlock) = s.previous.any (!·.opensBlock) :=
    h.previous_any fun _ _ above => congrArg _ above.opensBlock
  have closes := h.previous_any fun _ _ above => above.closesBlock
  rw [due_eq_role, due_eq_role, d.role]
  cases t.role <;> simp only [Role.move, require, opens, closes, h.length, ends, h.current.hasRequire]

theorem note (h : Disguised f g s s') (d : Disguise f g) (t : Token) : Disguised f g (s.note t) (s'.note (f t)) where
  config := h.config
  buffer := h.buffer
  mark := h.mark
  current := by
    have last : s'.buffer.getLast?.any Token.isIndent = s.buffer.getLast?.any Token.isIndent := by
      rw [h.buffer, List.getLast?_map, d.any_isIndent]
    show Line.Disguised g (s.current.read _ t) (s'.current.read _ (f t))
    rw [last]
    exact h.current.read d _ t
  previous := by
    rw [note_previous, note_previous]
    have above := h.previous
    generalize s.previous = before, s'.previous = before' at above
    cases above with
    | none => exact .none
    | some above =>
      refine .some { above with opensBlock := ?_ }
      simp only [above.opensBlock, above.depth, d.depth, d.deepens]
  reasons := h.reasons
  log := h.log

theorem addBlankLine (h : Disguised f g s s') (d : Disguise f g) (r : Reason) :
    Disguised f g (s.addBlankLine r) (s'.addBlankLine r) := by
  rw [addBlankLine_eq, addBlankLine_eq]
  exact {
    config := h.config
    buffer := by simp [h.buffer, h.mark, d.newline]
    mark := by simp [h.mark]
    current := h.current
    previous := h.previous
    reasons := by simp [h.reasons]
    log := by simp [h.log, h.config, h.mark] }

theorem makeRoom (h : Disguised f g s s') (d : Disguise f g) (t : Token) :
    Disguised f g (s.makeRoom t) (s'.makeRoom (f t)) := by
  unfold Shaper.makeRoom
  rw [h.due d]
  cases s.due? t with
  | none => exact h
  | some r =>
    simp only
    rw [h.blankAtMark d]
    split
    · exact h
    · exact h.addBlankLine d r

theorem endLine (h : Disguised f g s s') (d : Disguise f g) : Disguised f g s.endLine s'.endLine := by
  have ends : [.hardNewline, .hardNewline] <:+ s'.buffer ↔ [.hardNewline, .hardNewline] <:+ s.buffer :=
    h.suffix_iff d (by simp)
  have empty := Line.disguised_empty g
  rw [endLine_eq, endLine_eq, if_congr ends rfl rfl, h.length]
  split
  · exact ⟨h.config, h.buffer, rfl, empty, .some h.current, h.reasons, by rw [h.log]⟩
  · exact ⟨h.config, by simp [h.buffer, d.newline], rfl, empty, .some h.current, h.reasons, h.log⟩

theorem write (h : Disguised f g s s') (d : Disguise f g) (t : Token) : Disguised f g (s.write t) (s'.write (f t)) := by
  by_cases newline : t = .hardNewline
  · subst newline
    rw [d.newline]
    exact h.endLine d
  · have other : f t ≠ .hardNewline := fun same => newline ((d.eq_iff (Or.inl rfl) t).1 same)
    rw [write_of_ne _ newline, write_of_ne _ other]
    exact { h with buffer := by simp [h.buffer] }

/-- **One token**, plain and in disguise. -/
theorem advance (h : Disguised f g s s') (d : Disguise f g) (t : Token) :
    Disguised f g (s.advance t) (s'.advance (f t)) :=
  ((h.note d t).makeRoom d t).write d t

/-- **A text**, plain and in disguise. -/
theorem advanceAll (h : Disguised f g s s') (d : Disguise f g) (ts : List Token) :
    Disguised f g (s.advanceAll ts) (s'.advanceAll (ts.map f)) := by
  induction ts generalizing s s' with
  | nil => exact h
  | cons t ts ih => exact ih (h.advance d t)

end Disguised

end Shaper

end Interline
