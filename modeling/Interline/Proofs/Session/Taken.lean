import Interline.Proofs.Session.Sound
import Interline.Proofs.Shaper.Content

/-!
# After the tokens were taken

A shaper that has handed over its tokens refuses every request that needs them, and stays as it is. The one
request that still writes is the one for a blank line: it looks at the mark alone, which a caller may have
set anywhere, and most often fails after its newline went in. `Remains` is what every session leaves of such
a shaper, and `runAll_after_takeTokens` says so of each state behind the hand-over.
-/

namespace Interline
set_option autoImplicit false

/-- The request is for the tokens, or for a change at their end. -/
def Request.needsTokens : Request → Bool
  | .push _ | .clearFiller | .takeTokens => true
  | .pushAll ts => !ts.isEmpty
  | _ => false

/-- The tokens that the step handed over. -/
def Step.tokens? : Step → Option (List Token)
  | .ok (.tokens ts) _ => some ts
  | _ => none

namespace Shaper

variable {s s' : Shaper} {added : List Reason}

/-- **A request that needs the tokens** is refused after they were taken, and changes nothing. -/
theorem answer_of_taken (taken : s.taken = true) {q : Request} (needs : q.needsTokens = true) :
    s.answer q = .error .alreadyTaken { s with log := [] } := by
  have pushed (t : Token) : push t { s with log := [] } = .error .alreadyTaken { s with log := [] } := by
    rw [push_eq, if_pos taken]
  cases q with
  | push t => rw [answer, perform, perform_done, pushed]
  | pushAll ts =>
    cases ts with
    | nil => cases needs
    | cons t ts => rw [answer, perform, perform_done, pushAll_cons_eq, pushed]
  | clearFiller => rw [answer, perform, perform_done, clearFiller_eq, if_pos taken]
  | takeTokens => rw [answer, perform, bind_eq, takeTokens_eq, if_pos taken]
  | _ => cases needs

/-- Only a request for the tokens hands them over, and only once. -/
theorem tokens_of_taken (taken : s.taken = true) (q : Request) : (s.answer q).tokens? = none := by
  have nothing (operation : ShaperM Unit) :
      Step.tokens? ((do operation; return Reply.done : ShaperM Reply) { s with log := [] }) = none := by
    rw [perform_done]
    cases operation { s with log := [] } <;> rfl
  cases q with
  | takeTokens => rw [answer_of_taken taken rfl]; rfl
  | push t => exact nothing (push t)
  | pushAll ts => exact nothing (pushAll ts)
  | insertBlankLine r => exact nothing (insertBlankLine r)
  | clearFiller => exact nothing clearFiller
  | lastFour | length | setMark mark | configure change => rfl

/-! ## Requests for a blank line -/

/-- A request that finds the mark stale has given its reason. -/
theorem reasons_of_stale {r : Reason} (stale : (s.answer (.insertBlankLine r)).IsStale) :
    (s.answer (.insertBlankLine r)).after.reasons = s.reasons ++ [r] := by
  obtain ⟨index, found, fault⟩ := stale
  rw [after_insertBlankLine]
  rw [answer_insertBlankLine] at fault
  -- Where a blank line is there already, or cannot go in, the mark is not checked.
  cases blank : s.blankAtMark with
  | true =>
    rw [blank] at fault
    cases fault
  | false =>
    cases reach : s.inReach with
    | false =>
      rw [blank, reach] at fault
      cases fault
    | true => rfl

/-! ## What is left -/

/-- What `s'` still has of a shaper `s` whose tokens were taken: the facts of its lines and its reasons. In
place of the tokens stands a newline for each of the reasons `added` since. -/
structure Remains (s : Shaper) (added : List Reason) (s' : Shaper) : Prop where
  taken : s'.taken = true
  current : s'.current = s.current
  previous : s'.previous = s.previous
  reasons : s'.reasons = s.reasons ++ added
  buffer : s'.buffer = List.replicate added.length .hardNewline

/-- The log has no part in it. -/
theorem Remains.clearLog (h : s.Remains added s') : s.Remains added { s' with log := [] } :=
  ⟨h.taken, h.current, h.previous, h.reasons, h.buffer⟩

theorem Remains.append_nil (h : s.Remains added s') : s.Remains (added ++ []) s' :=
  (List.append_nil added).symm ▸ h

/-- Wherever the mark is, a newline among newlines makes one more. -/
theorem spliced_replicate {n : Nat} (newlines : s.buffer = List.replicate n .hardNewline) (k : Nat) :
    s.spliced k = List.replicate (n + k) .hardNewline := by
  rw [spliced, newlines, List.take_replicate, List.drop_replicate, List.replicate_append_replicate,
    List.replicate_append_replicate]
  congr 1
  omega

theorem Remains.addBlankLine (h : s.Remains added s') (r : Reason) :
    s.Remains (added ++ [r]) (s'.addBlankLine r) := by
  obtain ⟨-, current, previous, taken⟩ := s'.addBlankLine_frame r
  have inserts := s'.inserts_addBlankLine r
  refine ⟨taken.trans h.taken, current.trans h.current, previous.trans h.previous, ?_, ?_⟩
  · rw [inserts.reasons, h.reasons, List.append_assoc]
  · rw [inserts.buffer, spliced_replicate h.buffer, List.length_append]

theorem Remains.announce (h : s.Remains added s') (r : Reason) : s.Remains added (s'.announce r) := by
  rw [announce_eq]
  exact ⟨h.taken, h.current, h.previous, h.reasons, h.buffer⟩

/-- **A request for a blank line** adds its reason and a newline, whether it fails or not, unless a blank
line is there or the mark is out of reach. -/
theorem Remains.insertBlankLine (h : s.Remains added s') (r : Reason) :
    ∃ more, s.Remains (added ++ more) (s'.answer (.insertBlankLine r)).after := by
  rw [after_insertBlankLine]
  split
  · exact ⟨[], h.clearLog.append_nil⟩
  · split
    · exact ⟨[r], h.clearLog.addBlankLine r⟩
    · exact ⟨[], (h.clearLog.announce r).append_nil⟩

/-- **One request** after the tokens were taken. -/
theorem Remains.answer (h : s.Remains added s') (q : Request) :
    ∃ more, s.Remains (added ++ more) (s'.answer q).after := by
  have same := h.clearLog.append_nil
  by_cases needs : q.needsTokens = true
  · rw [answer_of_taken h.taken needs]
    exact ⟨[], same⟩
  · cases q with
    | insertBlankLine r => exact h.insertBlankLine r
    | pushAll ts =>
      cases ts with
      | nil => exact ⟨[], same⟩
      | cons t ts => exact absurd rfl needs
    | lastFour | length => exact ⟨[], same⟩
    | setMark mark | configure change =>
      exact ⟨[], same.taken, same.current, same.previous, same.reasons, same.buffer⟩
    | _ => exact absurd rfl needs

/-- **A session** after the tokens were taken. -/
theorem Remains.runAll (h : s.Remains added s') (qs : List Request) :
    ∃ more, s.Remains (added ++ more) (s'.runAll qs) := by
  induction qs generalizing added s' with
  | nil => exact ⟨[], h.append_nil⟩
  | cons q qs ih =>
    obtain ⟨first, after⟩ := h.answer q
    obtain ⟨others, final⟩ := ih after
    refine ⟨first ++ others, ?_⟩
    rw [← List.append_assoc]
    exact final

/-- No request of such a session hands over tokens. -/
theorem Remains.tokens (h : s.Remains added s') (qs : List Request) :
    ∀ step ∈ s'.answerAll qs, step.tokens? = none := by
  induction qs generalizing added s' with
  | nil => simp [answerAll]
  | cons q qs ih =>
    obtain ⟨more, after⟩ := h.answer q
    exact List.forall_mem_cons.2 ⟨tokens_of_taken h.taken q, ih after⟩

theorem remains_takeTokens (taken : (s.answer .takeTokens).fault? = none) :
    s.Remains [] (s.answer .takeTokens).after := by
  rw [Shaper.answer, perform, bind_eq, takeTokens_eq] at taken ⊢
  cases before : s.taken with
  | true => simp [before, Step.fault?] at taken
  | false => exact ⟨rfl, rfl, rfl, (List.append_nil _).symm, rfl⟩

/-- **After the tokens were taken**, whatever a session goes on with: no tokens are handed over again; each
request that needs them is refused, changes nothing and logs nothing; the facts of the lines and the reasons
are those of the hand-over, but for reasons that came after them; and the buffer is a newline for each reason
since, that of a request which found the mark stale included. -/
theorem runAll_after_takeTokens (config : ShaperConfig) (qs later : List Request) :
    let s := ({ config } : Shaper).runAll qs
    let handed := s.answer .takeTokens
    let s' := handed.after.runAll later
    handed.fault? = none →
      (∀ step ∈ handed.after.answerAll later, step.tokens? = none) ∧
      (∀ q, q.needsTokens = true → s'.answer q = .error .alreadyTaken { s' with log := [] }) ∧
      s'.current = s.current ∧ s'.previous = s.previous ∧
      (∃ added, s'.reasons = s.reasons ++ added ∧ s'.buffer = List.replicate added.length .hardNewline) ∧
      ∀ r, (s'.answer (.insertBlankLine r)).IsStale →
        (s'.answer (.insertBlankLine r)).after.reasons = s'.reasons ++ [r] := by
  intro s handed s' taken
  have start : s.Remains [] handed.after := remains_takeTokens taken
  obtain ⟨added, final⟩ := start.runAll later
  refine ⟨start.tokens later, ?_, final.current, final.previous, ⟨added, final.reasons, final.buffer⟩, ?_⟩
  · intro q needs
    exact answer_of_taken final.taken needs
  · intro r stale
    exact reasons_of_stale stale

/-- Two lines are taken; then blank lines at the old mark, before the buffer and past its end, with the checks on and
off, between requests that are refused. The session stops where one more blank line would find the mark stale. -/
theorem runAll_after_takeTokens_of_strayMarks :
    let qs : List Request := [.pushAll [.indent 0, .text "f", .hardNewline, .endWord, .hardNewline, .indent 2],
      .insertBlankLine .commentAfterEnd]
    let later : List Request := [.insertBlankLine .classOrModule, .push .hardNewline, .setMark (-3),
      .insertBlankLine .doKeyword, .takeTokens, .configure { checkMark := some false }, .setMark 9,
      .insertBlankLine .conditional, .clearFiller, .setMark 1, .insertBlankLine .conditional, .length,
      .configure { checkMark := some true }, .setMark 7]
    let s := ({} : Shaper).runAll qs
    let handed := s.answer .takeTokens
    let s' := handed.after.runAll later
    handed.fault? = none ∧
      (∀ step ∈ handed.after.answerAll later, step.tokens? = none) ∧
      s'.answer (.pushAll [.comma, .hardNewline]) = .error .alreadyTaken { s' with log := [] } ∧
      s'.current = s.current ∧ s'.previous = s.previous ∧
      (∃ added, s'.reasons = s.reasons ++ added ∧ s'.buffer = List.replicate added.length .hardNewline) ∧
      (s'.answer (.insertBlankLine .conditional)).IsStale ∧
      (s'.answer (.insertBlankLine .conditional)).after.reasons = s'.reasons ++ [.conditional] := by
  intro qs later
  obtain ⟨tokens, refused, current, previous, ledger, stale⟩ := runAll_after_takeTokens {} qs later (by decide)
  exact ⟨by decide, tokens, refused _ rfl, current, previous, ledger, by decide, stale _ (by decide)⟩

end Shaper

end Interline
