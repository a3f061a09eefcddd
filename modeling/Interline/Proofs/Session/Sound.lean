import Interline.Session
import Interline.Proofs.Shaper.Filler
import Interline.Proofs.Shaper.Insertion
import Mathlib.Logic.Relation

/-!
# Sessions of a sound shaper

What a session reaches when it only writes, asks for blank lines, removes filler and looks. `Moves`
lists the changes that such requests are made of as long as none reports a stale mark, and
`Sound.runAll_reaches` says that the session reaches no other state; what each move keeps is kept by
every such session.
-/

namespace Interline
set_option autoImplicit false

/-- The request neither hands the tokens over nor sets the mark or the configuration. -/
def Request.isRegular : Request → Bool
  | .takeTokens | .setMark _ | .configure _ => false
  | _ => true

/-- The tokens that the request pushes. -/
def Request.pushed : Request → List Token
  | .push t => [t]
  | .pushAll ts => ts
  | _ => []

/-- The request ended with a report of a stale mark. -/
def Step.IsStale (step : Step) : Prop :=
  ∃ index found, step.fault? = some (.staleMark index found)

instance (step : Step) : Decidable step.IsStale :=
  match ended : step.fault? with
  | some (.staleMark index found) => isTrue ⟨index, found, ended⟩
  | some (.bufferTooShort _ _) | some .alreadyTaken | some .outOfReach | none =>
    isFalse fun ⟨_, _, stale⟩ => by cases ended.symm.trans stale

namespace Shaper

variable {s s' : Shaper} {front back : List Token}

/-- Before a line has ended a blank line goes in at the top, where no newline is above it. -/
theorem Unmarked.insertBlankLine_eq (h : s.Unmarked) (checks : s.config.checkMark = true) (r : Reason) :
    insertBlankLine r s = .error (.staleMark 1 s.buffer.head?) (s.addBlankLine r) := by
  have slot : s.slot? s.mark = s.buffer.head? := by
    rw [h.mark, List.head?_eq_getElem?]
    rfl
  have other : s.slot? s.mark ≠ some .hardNewline := by
    rw [slot]
    intro found
    exact h.buffer (List.mem_of_head? found)
  have inside : 0 ≤ s.mark := Int.le_of_eq h.mark.symm
  have near : s.inReach = true := inReach_of_inside inside (by rw [h.mark]; omega)
  rw [insertBlankLine_of_other inside near other, if_pos checks, slot, h.mark]
  rfl

/-- Once a line has ended, a blank line that is missing goes in and the mark stays right. -/
theorem Marked.insertBlankLine_eq (h : s.Marked front back) (r : Reason) :
    insertBlankLine r s = .ok () (if s.blankAtMark then s else s.addBlankLine r) :=
  insertBlankLine_of_newline h.slot_mark r

/-! ## Moves -/

/-- One change that a regular request makes to a sound shaper when it reports no stale mark. -/
inductive Moves : Shaper → Shaper → Prop where
  /-- Each request starts a log of its own. -/
  | clearLog (s : Shaper) : Moves s { s with log := [] }
  | push (s : Shaper) (t : Token) : Moves s (s.advance t)
  /-- A blank line that is missing goes in below a line that has ended. -/
  | addBlankLine {s : Shaper} {front back : List Token} (marked : s.Marked front back)
      (missing : s.blankAtMark = false) (r : Reason) : Moves s (s.addBlankLine r)
  /-- Filler goes, and none of it stood in front of the newline that is marked. -/
  | dropFiller {s : Shaper} (below : ¬ EndsInFiller s.buffer) : Moves s s.dropFiller

abbrev Reaches : Shaper → Shaper → Prop :=
  Relation.ReflTransGen Moves

theorem Reaches.advanceAll (s : Shaper) (ts : List Token) : Reaches s (s.advanceAll ts) := by
  induction ts generalizing s with
  | nil => exact .refl
  | cons t ts ih => exact .head (.push s t) (ih _)

/-- How a regular request that pushes `ts` and reports no stale mark leaves a shaper. A request that only
looks, that is refused, or that asks for a blank line which is there leaves it as it is. -/
inductive Leaves (s : Shaper) : List Token → Shaper → Prop where
  | pushed (ts : List Token) : Leaves s ts (s.advanceAll ts)
  | addBlankLine {front back : List Token} (marked : s.Marked front back) (missing : s.blankAtMark = false)
      (r : Reason) : Leaves s [] (s.addBlankLine r)
  | dropFiller (below : ¬ EndsInFiller s.buffer) : Leaves s [] s.dropFiller

theorem Leaves.reaches {ts : List Token} (left : Leaves s ts s') : Reaches s s' := by
  cases left with
  | pushed => exact Reaches.advanceAll s ts
  | addBlankLine marked missing r => exact .single (.addBlankLine marked missing r)
  | dropFiller below => exact .single (.dropFiller below)

theorem Sound.clearLog (h : s.Sound) : ({ s with log := [] } : Shaper).Sound := by
  refine ⟨h.untaken, ?_⟩
  rcases h.mark with ⟨buffer, mark, previous, reasons⟩ | ⟨front, back, ⟨buffer, mark, last⟩, previous, single⟩
  · exact Or.inl ⟨buffer, mark, previous, reasons⟩
  · exact Or.inr ⟨front, back, ⟨buffer, mark, last⟩, previous, single⟩

/-- **One move** keeps a shaper sound, and its settings. -/
theorem Sound.moves (h : s.Sound) (move : Moves s s') : s'.Sound ∧ s'.config = s.config := by
  cases move with
  | clearLog => exact ⟨h.clearLog, rfl⟩
  | push t => exact ⟨(h.push t).2, s.advance_config t⟩
  | addBlankLine marked missing r =>
    have frame := s.addBlankLine_frame r
    exact ⟨⟨frame.2.2.2.trans h.untaken, Or.inr ⟨_, _, marked.addBlankLine r missing⟩⟩, frame.1⟩
  | dropFiller below => exact ⟨h.dropFiller below, s.dropFiller_config⟩

theorem Sound.reaches (h : s.Sound) (reach : Reaches s s') : s'.Sound ∧ s'.config = s.config := by
  induction reach with
  | refl => exact ⟨h, rfl⟩
  | tail _ move ih =>
    obtain ⟨sound, config⟩ := ih.1.moves move
    exact ⟨sound, config.trans ih.2⟩

/-! ## Requests -/

/-- A request that has nothing to return ends as its operation does. -/
theorem perform_done (operation : ShaperM Unit) (s : Shaper) :
    (do operation; return Reply.done : ShaperM Reply) s = match operation s with
      | .ok () s' => .ok .done s'
      | .error fault s' => .error fault s' := by
  rw [bind_eq]
  cases operation s <;> rfl

theorem answer_insertBlankLine (s : Shaper) (r : Reason) :
    let start : Shaper := { s with log := [] }
    s.answer (.insertBlankLine r) = if s.blankAtMark then .ok .done start
      else if s.inReach then
        match (start.addBlankLine r).staleMark? with
        | some fault => .error fault (start.addBlankLine r)
        | none => .ok .done (start.addBlankLine r)
      else .error .outOfReach (start.announce r) := by
  intro start
  have blank : start.blankAtMark = s.blankAtMark := rfl
  have reach : start.inReach = s.inReach := rfl
  rw [Shaper.answer, perform, perform_done, insertBlankLine_eq, blank, reach, requireMark_eq]
  cases s.blankAtMark with
  | true => rfl
  | false =>
    cases s.inReach with
    | false => rfl
    | true => cases (start.addBlankLine r).staleMark? <;> rfl

/-- What a request for a blank line leaves, whether it fails or not: the check of the mark comes after the
blank line went in, and takes nothing back. -/
theorem after_insertBlankLine (s : Shaper) (r : Reason) :
    let start : Shaper := { s with log := [] }
    (s.answer (.insertBlankLine r)).after = if s.blankAtMark then start
      else if s.inReach then start.addBlankLine r
      else start.announce r := by
  intro start
  rw [answer_insertBlankLine]
  split
  · rfl
  · split
    · cases (start.addBlankLine r).staleMark? <;> rfl
    · rfl

/-- **One request** leaves a sound shaper in one of the given ways, or reports a stale mark. -/
theorem Sound.answer_leaves (h : s.Sound) (checks : s.config.checkMark = true) {q : Request}
    (regular : q.isRegular = true) :
    Leaves { s with log := [] } q.pushed (s.answer q).after ∨ (s.answer q).IsStale := by
  have sound := h.clearLog
  cases q with
  | push t =>
    rw [Shaper.answer, perform, perform_done, (sound.push t).1]
    exact Or.inl (.pushed [t])
  | pushAll ts =>
    rw [Shaper.answer, perform, perform_done, (sound.pushAll ts).1]
    exact Or.inl (.pushed ts)
  | insertBlankLine reason =>
    rw [Shaper.answer, perform, perform_done]
    rcases sound.mark with unmarked | ⟨front, back, marked⟩
    · rw [unmarked.insertBlankLine_eq checks]
      exact Or.inr ⟨_, _, rfl⟩
    · rw [marked.insertBlankLine_eq]
      cases missing : ({ s with log := [] } : Shaper).blankAtMark with
      | true => exact Or.inl (.pushed [])
      | false => exact Or.inl (.addBlankLine marked missing reason)
  | clearFiller =>
    rw [Shaper.answer, perform, perform_done]
    rcases sound.clearFiller checks with ⟨-, short⟩ | ⟨-, below, dropped⟩ | ⟨-, stale⟩
    · rw [short]
      exact Or.inl (.pushed [])
    · rw [dropped]
      exact Or.inl (.dropFiller below)
    · rw [stale]
      exact Or.inr ⟨_, _, rfl⟩
  | lastFour | length => exact Or.inl (.pushed [])
  | takeTokens | setMark mark | configure change => cases regular

/-- **One request** moves a sound shaper, or reports a stale mark. -/
theorem Sound.answer (h : s.Sound) (checks : s.config.checkMark = true) {q : Request}
    (regular : q.isRegular = true) : Reaches s (s.answer q).after ∨ (s.answer q).IsStale := by
  rcases h.answer_leaves checks regular with left | stale
  · exact Or.inl (.head (.clearLog s) left.reaches)
  · exact Or.inr stale

/-- **A session** of regular requests moves a sound shaper, as long as no request reports a stale mark. -/
theorem Sound.runAll_reaches (h : s.Sound) (checks : s.config.checkMark = true) {qs : List Request}
    (regular : ∀ q ∈ qs, q.isRegular = true) (fresh : ∀ step ∈ s.answerAll qs, ¬ step.IsStale) :
    Reaches s (s.runAll qs) := by
  induction qs generalizing s with
  | nil => exact .refl
  | cons q qs ih =>
    obtain ⟨first, others⟩ := List.forall_mem_cons.1 regular
    obtain ⟨ended, rest⟩ := List.forall_mem_cons.1 fresh
    have reach := (h.answer checks first).resolve_right ended
    obtain ⟨sound, config⟩ := h.reaches reach
    exact reach.trans (ih sound (config ▸ checks) others rest)

/-- A session of regular requests keeps a shaper sound as long as no request reports a stale mark. -/
theorem Sound.runAll (h : s.Sound) (checks : s.config.checkMark = true) {qs : List Request}
    (regular : ∀ q ∈ qs, q.isRegular = true) (fresh : ∀ step ∈ s.answerAll qs, ¬ step.IsStale) :
    (s.runAll qs).Sound :=
  (h.reaches (h.runAll_reaches checks regular fresh)).1

/-- **The newlines of a session.** Wherever a session of regular requests leads without a report
of a stale mark, the mark is the slot of the last hard newline and a line before is known; with
no newline in the buffer nothing has been marked or inserted; and no three newlines stand in a
row. -/
theorem runAll_newlines (config : ShaperConfig) (qs : List Request) (checks : config.checkMark = true)
    (regular : ∀ q ∈ qs, q.isRegular = true) (fresh : ∀ step ∈ ({ config } : Shaper).answerAll qs, ¬ step.IsStale) :
    let s := ({ config } : Shaper).runAll qs
    (.hardNewline ∈ s.buffer →
      (∃ front back, s.buffer = front ++ .hardNewline :: back ∧ .hardNewline ∉ back ∧ s.mark = front.length) ∧
        s.previous ≠ none) ∧
    (.hardNewline ∉ s.buffer → s.mark = 0 ∧ s.previous = none ∧ s.reasons = []) ∧
    ¬ [.hardNewline, .hardNewline, .hardNewline] <:+: s.buffer := by
  intro s
  have sound : s.Sound := (sound_fresh config).runAll checks regular fresh
  rcases sound.mark with unmarked | ⟨front, back, marked⟩
  · refine ⟨?_, ?_, ?_⟩
    · intro newline
      exact absurd newline unmarked.buffer
    · intro _
      exact ⟨unmarked.mark, unmarked.previous, unmarked.reasons⟩
    · intro triple
      exact unmarked.buffer (triple.subset (by simp))
  · have member : .hardNewline ∈ s.buffer := by simp [marked.buffer]
    refine ⟨?_, ?_, ?_⟩
    · intro _
      exact ⟨⟨front, back, marked.buffer, marked.last, marked.mark⟩, Option.isSome_iff_ne_none.1 marked.previous⟩
    · intro absent
      exact absurd member absent
    · rw [marked.buffer, triple_infix_iff marked.last]
      exact marked.single

/-- A session with a removal that is refused, one that removes, and a blank line that is asked for. -/
theorem runAll_newlines_of_mixed :
    let qs : List Request := [.clearFiller, .push (.indent 0), .pushAll [.text "f", .hardNewline, .text "a"],
      .insertBlankLine .doKeyword, .pushAll [.comma, .space, .delimiter ")"], .clearFiller, .lastFour, .push .hardNewline,
      .length]
    let s := ({} : Shaper).runAll qs
    (∀ step ∈ ({} : Shaper).answerAll qs, ¬ step.IsStale) ∧
    (.hardNewline ∈ s.buffer →
      (∃ front back, s.buffer = front ++ .hardNewline :: back ∧ .hardNewline ∉ back ∧ s.mark = front.length) ∧
        s.previous ≠ none) ∧
    (.hardNewline ∉ s.buffer → s.mark = 0 ∧ s.previous = none ∧ s.reasons = []) ∧
    ¬ [.hardNewline, .hardNewline, .hardNewline] <:+: s.buffer :=
  ⟨by decide, runAll_newlines {} _ rfl (by decide) (by decide)⟩

end Shaper

end Interline
