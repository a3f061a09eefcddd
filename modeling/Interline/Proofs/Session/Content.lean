import Interline.Proofs.Session.Lookback
import Interline.Proofs.Shaper.Content

/-!
# What a session keeps

Nothing that a session writes is lost, doubled, moved or changed, in whatever state a request finds the
shaper: the mark may be set to any slot, the checks may be off, and requests may fail. Each request puts
in one hard newline at most and writes its token at the end or not at all (`answer_content`), and from
this the buffer of a session is told by the tokens of its pushes (`runAll_content`).
-/

namespace Interline
set_option autoImplicit false

/-- The step dropped a newline. -/
def Step.suppresses (step : Step) : Bool :=
  step.after.log.any Event.isSuppression

namespace Request

/-- The token of a push that did not fail. -/
def accepted : Request → Step → List Token
  | .push t, step => if step.fault? = none then [t] else []
  | _, _ => []

/-- The token that a request writes: that of a push which did not fail and dropped no newline. -/
def written : Request → Step → List Token
  | .push t, step => if step.fault? = none ∧ step.suppresses = false then [t] else []
  | _, _ => []

/-- The request writes, or sets the mark or the configuration. -/
def isWriteOrSetting : Request → Bool
  | .push _ | .insertBlankLine _ | .setMark _ | .configure _ => true
  | _ => false

end Request

namespace Shaper

/-- What the requests of a session and their steps give, one after the other. -/
def gather (s : Shaper) (qs : List Request) (give : Request → Step → List Token) : List Token :=
  (List.zipWith give qs (s.answerAll qs)).flatten

theorem gather_cons (s : Shaper) (q : Request) (qs : List Request) (give : Request → Step → List Token) :
    s.gather (q :: qs) give = give q (s.answer q) ++ (s.answer q).after.gather qs give :=
  rfl

theorem written_of_error (t : Token) (fault : Fault) (s : Shaper) :
    (Request.push t).written (.error fault s) = [] := by
  simp [Request.written, Step.fault?]

theorem written_of_ok (t : Token) (reply : Reply) (s : Shaper) :
    (Request.push t).written (.ok reply s) = if s.log.any Event.isSuppression = true then [] else [t] := by
  cases dropped : s.log.any Event.isSuppression <;>
    simp [Request.written, Step.fault?, Step.suppresses, Step.after, dropped]

/-- What a write leaves of `s` when it ends in the step `step`: the blank lines for the reasons `added`, of
which there is one at most, and then the token that was written. -/
structure Adds (s : Shaper) (q : Request) (step : Step) (added : List Reason) : Prop where
  single : added.length ≤ 1
  reasons : step.after.reasons = s.reasons ++ added
  buffer : step.after.buffer = s.spliced added.length ++ q.written step
  suppresses : step.suppresses = true →
    q = .push .hardNewline ∧ [.hardNewline, .hardNewline] <:+ s.spliced added.length

section Adds

variable {s : Shaper} {q : Request} {step : Step} {added : List Reason}

/-- A request that writes no token adds the blank lines alone. -/
theorem Inserts.adds (inserts : ({ s with log := [] } : Shaper).Inserts added step.after) (nothing : q.written step = []) :
    s.Adds q step added := by
  refine ⟨inserts.single, inserts.reasons, ?_, ?_⟩
  · rw [nothing, List.append_nil]
    exact inserts.buffer
  · intro dropped
    cases inserts.log.symm.trans dropped

/-- A push that does not fail writes its token below the blank lines, or drops it. -/
theorem Inserts.adds_write {room : Shaper} (inserts : ({ s with log := [] } : Shaper).Inserts added room) (t : Token) :
    s.Adds (.push t) (.ok .done (room.write t)) added := by
  have buffer : room.buffer = s.spliced added.length := inserts.buffer
  have reasons : (room.write t).reasons = s.reasons ++ added := (room.write_reasons t).trans inserts.reasons
  rcases write_cases t room with ⟨rfl, double, same, dropped⟩ | ⟨longer, same⟩
  · refine ⟨inserts.single, reasons, ?_, ?_⟩
    · rw [written_of_ok, if_pos dropped, List.append_nil, ← buffer]
      exact same
    · intro _
      exact ⟨rfl, buffer ▸ double⟩
  · have kept : (room.write t).log.any Event.isSuppression = false := same ▸ inserts.log
    refine ⟨inserts.single, reasons, ?_, ?_⟩
    · rw [written_of_ok, if_neg (Bool.eq_false_iff.1 kept), ← buffer]
      exact longer
    · intro dropped
      cases kept.symm.trans dropped

/-- **One request to write**, on any shaper. -/
theorem answer_adds (s : Shaper) {q : Request} (writes : q.isWrite = true) : ∃ added, s.Adds q (s.answer q) added := by
  cases q with
  | push t =>
    obtain ⟨added, room, inserts, ended⟩ := push_cases t { s with log := [] }
    refine ⟨added, ?_⟩
    rw [answer, perform, perform_done]
    rcases ended with ⟨fault, failed⟩ | done
    · rw [failed]
      exact inserts.adds (written_of_error t fault room)
    · rw [done]
      exact inserts.adds_write t
  | insertBlankLine r =>
    obtain ⟨added, room, inserts, ended⟩ := mayInsert_insertBlankLine r { s with log := [] }
    refine ⟨added, ?_⟩
    rw [answer, perform, perform_done]
    rcases ended with ⟨fault, failed⟩ | ⟨done, -⟩
    · rw [failed]
      exact inserts.adds rfl
    · rw [done]
      exact inserts.adds rfl
  | _ => cases writes

/-- Only a newline is dropped without a fault. -/
theorem Adds.filter_written (h : s.Adds q step added) :
    (q.written step).filter (· != .hardNewline) = (q.accepted step).filter (· != .hardNewline) := by
  cases q with
  | push t =>
    cases dropped : step.suppresses with
    | true =>
      obtain ⟨newline, -⟩ := h.suppresses dropped
      cases newline
      simp only [Request.written, Request.accepted]
      split <;> split <;> rfl
    | false => simp [Request.written, Request.accepted, dropped]
  | _ => rfl

theorem Adds.filter_buffer (h : s.Adds q step added) : step.after.buffer.filter (· != .hardNewline) =
    s.buffer.filter (· != .hardNewline) ++ (q.accepted step).filter (· != .hardNewline) := by
  rw [h.buffer, List.filter_append, filter_spliced, h.filter_written]

theorem Adds.count_buffer (h : s.Adds q step added) : step.after.buffer.count .hardNewline + s.reasons.length =
    s.buffer.count .hardNewline + (q.written step).count .hardNewline + step.after.reasons.length := by
  rw [h.buffer, h.reasons, List.count_append, count_spliced, List.length_append]
  omega

end Adds

/-- **One request** of a session that writes and sets. -/
theorem answer_content (s : Shaper) {q : Request} (writes : q.isWriteOrSetting = true) :
    (s.answer q).after.buffer.filter (· != .hardNewline) =
      s.buffer.filter (· != .hardNewline) ++ (q.accepted (s.answer q)).filter (· != .hardNewline) ∧
    (s.answer q).after.buffer.count .hardNewline + s.reasons.length =
      s.buffer.count .hardNewline + (q.written (s.answer q)).count .hardNewline + (s.answer q).after.reasons.length := by
  cases q with
  | push t =>
    obtain ⟨added, adds⟩ := s.answer_adds (q := .push t) rfl
    exact ⟨adds.filter_buffer, adds.count_buffer⟩
  | insertBlankLine r =>
    obtain ⟨added, adds⟩ := s.answer_adds (q := .insertBlankLine r) rfl
    exact ⟨adds.filter_buffer, adds.count_buffer⟩
  | setMark mark => exact ⟨(List.append_nil _).symm, rfl⟩
  | configure change => exact ⟨(List.append_nil _).symm, rfl⟩
  | _ => cases writes

/-- **A session** that writes and sets, from any state on. -/
theorem runAll_content (s : Shaper) {qs : List Request} (writes : ∀ q ∈ qs, q.isWriteOrSetting = true) :
    (s.runAll qs).buffer.filter (· != .hardNewline) =
      s.buffer.filter (· != .hardNewline) ++ (s.gather qs Request.accepted).filter (· != .hardNewline) ∧
    (s.runAll qs).buffer.count .hardNewline + s.reasons.length =
      s.buffer.count .hardNewline + (s.gather qs Request.written).count .hardNewline + (s.runAll qs).reasons.length := by
  induction qs generalizing s with
  | nil => simp [runAll, gather]
  | cons q qs ih =>
    obtain ⟨first, others⟩ := List.forall_mem_cons.1 writes
    obtain ⟨kept, newlines⟩ := s.answer_content first
    obtain ⟨keptAfter, newlinesAfter⟩ := ih (s.answer q).after others
    have run : s.runAll (q :: qs) = (s.answer q).after.runAll qs := rfl
    rw [run, gather_cons, gather_cons, List.filter_append, List.count_append]
    refine ⟨?_, ?_⟩
    · rw [keptAfter, kept, List.append_assoc]
    · omega

/-- **Nothing is lost.** A push and a request for a blank line leave the buffer of any shaper as it was, but
for one newline at most that goes in at the mark, with one reason for it, and for the token of a push that
neither fails nor drops a newline, which comes last. After a session from the start that also sets the mark
and the configuration, the tokens of the buffer other than newlines are those of the pushes that did not
fail, in order, and the newlines are those written and one for each reason. -/
theorem runAll_keeps_content :
    (∀ (s : Shaper) (q : Request), q.isWrite = true → ∃ added, s.Adds q (s.answer q) added) ∧
    ∀ (config : ShaperConfig) (qs : List Request), (∀ q ∈ qs, q.isWriteOrSetting = true) →
      let start : Shaper := { config }
      let s := start.runAll qs
      s.buffer.filter (· != .hardNewline) = (start.gather qs Request.accepted).filter (· != .hardNewline) ∧
        s.buffer.count .hardNewline = (start.gather qs Request.written).count .hardNewline + s.reasons.length := by
  refine ⟨fun s q writes => s.answer_adds writes, ?_⟩
  intro config qs writes
  obtain ⟨kept, newlines⟩ := ({ config } : Shaper).runAll_content writes
  exact ⟨kept, by simpa using newlines⟩

/-- A blank line above a class with the mark counted from the end; then a session in which a request for a
blank line and a push fail in the middle. -/
theorem runAll_keeps_content_of_stale :
    let s : Shaper :=
      { config := { checkMark := false }, buffer := [.text "f", .endWord], mark := -1, previous := some {} }
    let start : Shaper := {}
    let qs : List Request := [.push (.text "f"), .insertBlankLine .doKeyword, .push .hardNewline, .setMark 7, .push .classWord,
      .configure { checkMark := some false }, .push .classWord, .push .hardNewline, .push .hardNewline]
    (∃ added, s.Adds (.push .classWord) (s.answer (.push .classWord)) added) ∧
      (start.runAll qs).buffer.filter (· != .hardNewline) =
        (start.gather qs Request.accepted).filter (· != .hardNewline) ∧
      (start.runAll qs).buffer.count .hardNewline =
        (start.gather qs Request.written).count .hardNewline + (start.runAll qs).reasons.length :=
  ⟨runAll_keeps_content.1 _ _ rfl, runAll_keeps_content.2 {} _ (by decide)⟩

end Shaper

end Interline
