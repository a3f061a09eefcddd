import Interline.Proofs.Session.Sound
import Interline.Proofs.Shaper.Content

/-!
# Requests for a blank line, one after the other

Asked again and again, a shaper with the mark at a newline puts one blank line in at most. With the mark
at any other slot it puts one in each time: what stood at the mark stays there, and the guard against a
second blank line only looks where a newline stands. That ends where the mark has left the words of the
machine, and each request after that is refused. `answerAll_insertBlankLine` says so of any shaper whose
mark is not negative.
-/

namespace Interline.Shaper
set_option autoImplicit false

variable {s : Shaper}

/-! ## With the mark at a newline -/

theorem answer_insertBlankLine_of_newline (newline : s.slot? s.mark = some .hardNewline) (r : Reason) :
    s.answer (.insertBlankLine r) = .ok .done (if s.blankAtMark then { s with log := [] }
      else ({ s with log := [] } : Shaper).addBlankLine r) := by
  have cleared : ({ s with log := [] } : Shaper).slot? s.mark = some .hardNewline := newline
  rw [answer, perform, perform_done, insertBlankLine_of_newline cleared]
  rfl

/-- A blank line that is there is not put in again. -/
theorem answerAll_of_blank (newline : s.slot? s.mark = some .hardNewline) (blank : s.blankAtMark = true) (rs : List Reason) :
    s.answerAll (rs.map .insertBlankLine) = List.replicate rs.length (.ok .done { s with log := [] }) := by
  induction rs generalizing s with
  | nil => rfl
  | cons r rs ih =>
    have step : s.answer (.insertBlankLine r) = .ok .done { s with log := [] } := by
      rw [answer_insertBlankLine_of_newline newline, if_pos blank]
    have rest := ih (s := { s with log := [] }) newline blank
    rw [List.map_cons, answerAll, step, List.length_cons, List.replicate_succ]
    exact congrArg _ rest

/-! ## With the mark at another slot -/

/-- The shaper with a newline at the mark for each reason, and the mark below them. -/
def withBlankLines (s : Shaper) (added : List Reason) : Shaper :=
  { s with
    buffer := s.spliced added.length
    mark := s.mark + added.length
    reasons := s.reasons ++ added }

/-- Newlines that go in one after the other stand together. -/
theorem spliced_addBlankLine (inside : 0 ≤ s.mark) (r : Reason) (n : Nat) :
    (s.addBlankLine r).spliced n = s.spliced (n + 1) := by
  have buffer : (s.addBlankLine r).buffer = s.buffer.take (insertionPoint s.buffer.length s.mark) ++
      .hardNewline :: s.buffer.drop (insertionPoint s.buffer.length s.mark) := by rw [addBlankLine_eq]
  have mark : (s.addBlankLine r).mark = s.mark + 1 := rfl
  have point : insertionPoint (s.addBlankLine r).buffer.length (s.addBlankLine r).mark =
      (s.buffer.take (insertionPoint s.buffer.length s.mark)).length + 1 := by
    rw [buffer, mark, insertionPoint_of_nonneg inside, insertionPoint_of_nonneg (by omega)]
    simp only [List.length_append, List.length_cons, List.length_take, List.length_drop]
    omega
  rw [spliced, point, buffer, List.take_length_add_append, List.drop_length_add_append, spliced, List.replicate_succ]
  simp

theorem withBlankLines_addBlankLine (inside : 0 ≤ s.mark) (r : Reason) (added : List Reason) (log : List Event) :
    { (s.addBlankLine r).withBlankLines added with log } = { s.withBlankLines (r :: added) with log } := by
  have frame := s.addBlankLine_frame r
  have mark : (s.addBlankLine r).mark + added.length = s.mark + (added.length + 1 : Nat) := by
    show s.mark + 1 + _ = _
    omega
  simp only [withBlankLines, spliced_addBlankLine inside, mark, addBlankLine_reasons, frame.1, frame.2.1, frame.2.2.1,
    frame.2.2.2, List.length_cons, List.append_assoc, List.singleton_append]

theorem withBlankLines_take (inside : 0 ≤ s.mark) {added : List Reason} {n : Nat} (bound : n ≤ added.length) :
    s.withBlankLines (added.take n) =
      { s with
        buffer := s.buffer.take (min s.mark.toNat s.buffer.length) ++ List.replicate n .hardNewline ++
          s.buffer.drop (min s.mark.toNat s.buffer.length)
        mark := s.mark + n
        reasons := s.reasons ++ added.take n } := by
  rw [withBlankLines, spliced, List.length_take_of_le bound, insertionPoint_of_nonneg inside]

/-- How a request ends, for `asked`, that comes after `j` others of `rs`, when the mark was at no newline. Each
puts its blank line in until the mark is out of reach. -/
def strayStep (s : Shaper) (rs : List Reason) (j : Nat) (asked : Reason) : Step :=
  let after (n : Nat) (index : Int) : Shaper :=
    { s.withBlankLines (rs.take n) with
      log := if s.config.logBlankLines then [.blankLineInserted index asked] else [] }
  let room := (wordEnd - s.mark).toNat
  if s.mark + j < wordEnd ∨ s.mark ≤ s.buffer.length then
    if s.config.checkMark then .error (.staleMark (s.mark + (j + 1)) (s.slot? s.mark)) (after (j + 1) (s.mark + j))
    else .ok .done (after (j + 1) (s.mark + j))
  else .error .outOfReach (after room (s.mark + room))

/-- Out of reach every request ends in the same way. -/
theorem strayStep_of_far (inside : 0 ≤ s.mark) (far : s.inReach = false) (rs : List Reason) (j : Nat) (asked : Reason) :
    s.strayStep rs j asked = .error .outOfReach (({ s with log := [] } : Shaper).announce asked) := by
  have beyond : ¬ (s.mark < wordEnd ∨ s.mark ≤ s.buffer.length) := by
    rw [← inReach_iff inside, far]
    exact Bool.false_ne_true
  have room : (wordEnd - s.mark).toNat = 0 := by omega
  rw [strayStep, if_neg (by omega), announce_eq, room]
  simp [withBlankLines, spliced_zero]

theorem strayStep_first (inside : 0 ≤ s.mark) (other : s.slot? s.mark ≠ some .hardNewline) (r : Reason) (rs : List Reason) :
    s.strayStep (r :: rs) 0 r = s.answer (.insertBlankLine r) := by
  rw [answer, perform, perform_done]
  cases reach : s.inReach with
  | false =>
    rw [strayStep_of_far inside reach, insertBlankLine_of_far (s := { s with log := [] }) reach]
  | true =>
    have near := (inReach_iff inside).1 reach
    have added : ({ s with log := [] } : Shaper).addBlankLine r =
        { s.withBlankLines [r] with
          log := if s.config.logBlankLines then [.blankLineInserted s.mark r] else [] } := by
      simp [addBlankLine_eq, withBlankLines, spliced]
    have still : s.mark + (0 : Nat) = s.mark := Int.add_zero s.mark
    rw [insertBlankLine_of_other (s := { s with log := [] }) inside reach other, added, strayStep, if_pos (by omega), still]
    cases s.config.checkMark <;> rfl

/-- One request later the rest goes on as it would have from the start. -/
theorem strayStep_addBlankLine (inside : 0 ≤ s.mark) (near : s.inReach = true) (r : Reason) (rs : List Reason) (j : Nat)
    (asked : Reason) :
    (({ s with log := [] } : Shaper).addBlankLine r).strayStep rs j asked = s.strayStep (r :: rs) (j + 1) asked := by
  have slot := slot_addBlankLine_next (s := { s with log := [] }) inside r
  have config := (({ s with log := [] } : Shaper).addBlankLine_frame r).1
  have mark : (({ s with log := [] } : Shaper).addBlankLine r).mark = s.mark + 1 := rfl
  have length : (({ s with log := [] } : Shaper).addBlankLine r).buffer.length = s.buffer.length + 1 :=
    length_addBlankLine _ r
  have whole := withBlankLines_addBlankLine (s := { s with log := [] }) inside r
  rw [inReach_iff inside] at near
  rw [strayStep, strayStep, mark, slot, config, length]
  simp only [whole]
  by_cases reached : s.mark + (j + 1 : Nat) < wordEnd ∨ s.mark ≤ s.buffer.length
  · have one : s.mark + 1 + j = s.mark + (j + 1 : Nat) := by omega
    have two : s.mark + 1 + (j + 1) = s.mark + ((j + 1 : Nat) + 1) := by omega
    rw [if_pos (by omega), if_pos reached, one, two]
    rfl
  · have room : (wordEnd - s.mark).toNat = (wordEnd - (s.mark + 1)).toNat + 1 := by omega
    have one : s.mark + 1 + (wordEnd - (s.mark + 1)).toNat = s.mark + ((wordEnd - (s.mark + 1)).toNat + 1 : Nat) := by omega
    rw [if_neg (by omega), if_neg reached, room, one]
    rfl

/-- **With the mark at no newline** every request puts a blank line in, up to the end of the words. -/
theorem answerAll_of_other (inside : 0 ≤ s.mark) (other : s.slot? s.mark ≠ some .hardNewline) (rs : List Reason) :
    s.answerAll (rs.map .insertBlankLine) = rs.mapIdx (s.strayStep rs) := by
  induction rs generalizing s with
  | nil => rfl
  | cons r rs ih =>
    rw [List.map_cons, answerAll, List.mapIdx_cons, strayStep_first inside other, after_insertBlankLine,
      blankAtMark_of_other other]
    congr 1
    simp only [Bool.false_eq_true, if_false]
    cases reach : s.inReach with
    | true =>
      -- What stood at the mark stands at the new mark, so the rest is a run of the same kind one slot on. That
      -- the first request fails does not matter: it fails with its blank line put in.
      let next : Shaper := ({ s with log := [] } : Shaper).addBlankLine r
      have slot : next.slot? next.mark = s.slot? s.mark := slot_addBlankLine_next (s := { s with log := [] }) inside r
      rw [if_pos rfl, ih (s := next) (Int.le_add_one inside) (slot ▸ other)]
      congr 1
      funext j asked
      exact strayStep_addBlankLine inside reach r rs j asked
    | false =>
      -- The mark stays out of reach, and only the entry in the log is new.
      obtain ⟨log, next⟩ : ∃ log, ({ s with log := [] } : Shaper).announce r = { s with log } := ⟨_, announce_eq _ r⟩
      rw [if_neg Bool.false_ne_true, next, ih (s := { s with log }) inside other]
      congr 1
      funext j asked
      rw [strayStep_of_far inside reach, strayStep_of_far (s := { s with log }) inside reach]

/-- **Asking again.** A shaper whose mark is not negative is asked for blank lines one after the other, for
one reason at least. With the mark at a newline no request fails, and those after the first leave what the
first left and log nothing; the first puts a blank line in or nothing, and nothing exactly where the slot
above the mark holds a newline, or an indent below a newline. With the mark at another slot each request
puts a newline in at the place of the mark and gives its reason, and when the mark is checked each fails
with what stood at the mark at first. A request that finds the mark past the buffer and past the last index
that fits a machine word is refused, checked or not: it leaves what those before it left, and an entry in
the log. -/
theorem answerAll_insertBlankLine (s : Shaper) (inside : 0 ≤ s.mark) (r : Reason) (rs : List Reason) :
    (s.slot? s.mark = some .hardNewline →
      let start : Shaper := { s with log := [] }
      ∃ s' : Shaper,
        s.answerAll ((r :: rs).map .insertBlankLine) =
          .ok .done s' :: List.replicate rs.length (.ok .done { s' with log := [] }) ∧
        (s' = start ∨ s' = start.addBlankLine r) ∧
        (s' = start ↔ s.slot? (s.mark - 1) = some .hardNewline ∨
          s.slot? (s.mark - 2) = some .hardNewline ∧ ∃ depth, s.slot? (s.mark - 1) = some (.indent depth))) ∧
    (s.slot? s.mark ≠ some .hardNewline →
      let place := min s.mark.toNat s.buffer.length
      let room := (wordEnd - s.mark).toNat
      s.answerAll ((r :: rs).map .insertBlankLine) = (r :: rs).mapIdx fun j asked =>
        let after (n : Nat) (index : Int) : Shaper :=
          { s with
            buffer := s.buffer.take place ++ List.replicate n .hardNewline ++ s.buffer.drop place
            mark := s.mark + n
            reasons := s.reasons ++ (r :: rs).take n
            log := if s.config.logBlankLines then [.blankLineInserted index asked] else [] }
        if s.mark + j < wordEnd ∨ s.mark ≤ s.buffer.length then
          if s.config.checkMark then
            .error (.staleMark (s.mark + (j + 1)) (s.slot? s.mark)) (after (j + 1) (s.mark + j))
          else .ok .done (after (j + 1) (s.mark + j))
        else .error .outOfReach (after room (s.mark + room))) := by
  constructor
  · intro newline start
    have cleared : start.slot? start.mark = some .hardNewline := newline
    have step := answer_insertBlankLine_of_newline newline r
    rw [← blankAtMark_iff newline, List.map_cons, answerAll, step]
    cases blank : s.blankAtMark with
    | true =>
      refine ⟨start, ?_, Or.inl rfl, by simp⟩
      exact congrArg _ (answerAll_of_blank cleared blank rs)
    | false =>
      have added : start.addBlankLine r ≠ start := by
        intro same
        have longer := congrArg (fun shaper => shaper.reasons.length) same
        simp at longer
      refine ⟨start.addBlankLine r, ?_, Or.inr rfl, by simp [added]⟩
      exact congrArg _ (answerAll_of_blank (slot_addBlankLine_mark cleared r) (blankAtMark_addBlankLine cleared r) rs)
  · intro other place room
    rw [answerAll_of_other inside other]
    apply List.ext_getElem (by simp)
    intro j bound _
    rw [List.length_mapIdx] at bound
    rw [List.getElem_mapIdx, List.getElem_mapIdx]
    by_cases reached : s.mark + j < wordEnd ∨ s.mark ≤ s.buffer.length
    · simp only [strayStep, if_pos reached, withBlankLines_take inside (Nat.succ_le_of_lt bound)]
      rfl
    · have fits : (wordEnd - s.mark).toNat ≤ (r :: rs).length := by omega
      simp only [strayStep, if_neg reached, withBlankLines_take inside fits]
      rfl

/-- Two requests with the mark at a newline below a line of text, two with a mark past the end, and two from the
last index that fits a machine word, of which the second is refused. -/
theorem answerAll_insertBlankLine_of_stray :
    let ended : Shaper := { buffer := [.text "f", .hardNewline, .text "g"], mark := 1 }
    let stray : Shaper := { buffer := [.text "f"], mark := 4, taken := true }
    let last : Shaper := { config := { checkMark := false, logBlankLines := false }, mark := 0x7fffffffffffffff }
    (0 ≤ ended.mark ∧ ended.slot? ended.mark = some .hardNewline ∧ ∃ s' : Shaper,
      ended.answerAll [.insertBlankLine .doKeyword, .insertBlankLine .conditional] =
        [.ok .done s', .ok .done { s' with log := [] }] ∧
      (s' = ended ∨ s' = ended.addBlankLine .doKeyword) ∧
      (s' = ended ↔ ended.slot? 0 = some .hardNewline ∨
        ended.slot? (-1) = some .hardNewline ∧ ∃ depth, ended.slot? 0 = some (.indent depth))) ∧
    (0 ≤ stray.mark ∧ stray.slot? stray.mark ≠ some .hardNewline ∧
      stray.answerAll [.insertBlankLine .doKeyword, .insertBlankLine .conditional] =
        [.error (.staleMark 5 none)
          { stray with
            buffer := [.text "f", .hardNewline]
            mark := 5
            reasons := [.doKeyword]
            log := [.blankLineInserted 4 .doKeyword] },
         .error (.staleMark 6 none)
          { stray with
            buffer := [.text "f", .hardNewline, .hardNewline]
            mark := 6
            reasons := [.doKeyword, .conditional]
            log := [.blankLineInserted 5 .conditional] }]) ∧
    (0 ≤ last.mark ∧ last.slot? last.mark ≠ some .hardNewline ∧
      last.answerAll [.insertBlankLine .doKeyword, .insertBlankLine .conditional] =
        [.ok .done { last with buffer := [.hardNewline], mark := wordEnd, reasons := [.doKeyword] },
         .error .outOfReach { last with buffer := [.hardNewline], mark := wordEnd, reasons := [.doKeyword] }]) := by
  intro ended stray last
  refine ⟨?_, ?_, ?_⟩
  · refine ⟨by decide, rfl, ?_⟩
    exact (answerAll_insertBlankLine ended (by decide) .doKeyword [.conditional]).1 rfl
  · refine ⟨by decide, by decide, ?_⟩
    refine ((answerAll_insertBlankLine stray (by decide) .doKeyword [.conditional]).2 (by decide)).trans ?_
    have first : stray.mark + (0 : Nat) < wordEnd := by decide
    have second : stray.mark + (0 + 1 : Nat) < wordEnd := by decide
    simp only [List.mapIdx_cons, List.mapIdx_nil, first, second, true_or, if_true]
    rfl
  · refine ⟨by decide, by decide, ?_⟩
    refine ((answerAll_insertBlankLine last (by decide) .doKeyword [.conditional]).2 (by decide)).trans ?_
    have first : last.mark + (0 : Nat) < wordEnd := by decide
    have second : ¬ (last.mark + (0 + 1 : Nat) < wordEnd ∨ last.mark ≤ last.buffer.length) := by decide
    simp only [List.mapIdx_cons, List.mapIdx_nil, first, second, true_or, if_true, if_false]
    rfl

/-- **A mark that fits no machine word.** No newline stands there and the mark is not checked, and yet the request
fails and puts nothing in. -/
theorem not_insertBlankLine_at_wordEnd :
    let far : Shaper := { config := { checkMark := false }, mark := 0x8000000000000000 }
    let entry : List Event := [.blankLineInserted 0x8000000000000000 .conditional]
    0 ≤ far.mark ∧ far.slot? far.mark ≠ some .hardNewline ∧
      far.answerAll [.insertBlankLine .conditional] = [.error .outOfReach { far with log := entry }] ∧
      far.answerAll [.insertBlankLine .conditional] ≠ [.ok .done
        { far with
          buffer := [.hardNewline]
          mark := 0x8000000000000001
          reasons := [.conditional]
          log := entry }] := by
  intro far entry
  have refused : far.answerAll [.insertBlankLine .conditional] = [.error .outOfReach { far with log := entry }] := rfl
  refine ⟨by decide, by decide, refused, ?_⟩
  rw [refused]
  intro same
  cases same

end Interline.Shaper
