import Interline.Proofs.Pass.Run
import Interline.Proofs.Shaper.Content
import Interline.Proofs.Shaper.Log

/-!
# The log of a pass

The log is written while the stream is read, and agrees with what the pass returns: each entry gives a
place in the returned tokens where what it says can be seen (`shape_log`).
-/

namespace Interline
set_option autoImplicit false

namespace Event

/-- The entry for a whole pass. -/
def isSummary : Event → Bool
  | passFinished .. => true
  | _ => false

variable {ts : List Token} {log : List Event}

/-- A blank line that went in can be seen at its slot. -/
theorem HoldsOf.insertion {index : Int} {r : Reason} (h : (blankLineInserted index r).HoldsOf ts) :
    ts[index.toNat]? = some .hardNewline ∧ ts[index.toNat + 1]? = some .hardNewline ∧
      (0 < index.toNat → ts[index.toNat - 1]? ≠ some .hardNewline) := by
  obtain ⟨front, rfl, single, below, rfl⟩ := h
  rw [Int.toNat_natCast, List.append_assoc]
  refine ⟨?_, ?_, ?_⟩
  · rw [List.getElem?_append_right (Nat.le_refl _)]
    simp
  · rw [List.getElem?_append_right (Nat.le_succ _)]
    simp
  · intro held
    rwa [List.getElem?_append_left (Nat.sub_one_lt_of_lt held), ← List.getLast?_eq_getElem?]

/-- A newline that was dropped can be seen to have had two above it. -/
theorem HoldsOf.suppression {length : Nat} (h : (newlineSuppressed length).HoldsOf ts) :
    2 ≤ length ∧ length ≤ ts.length ∧ ts[length - 2]? = some .hardNewline ∧ ts[length - 1]? = some .hardNewline := by
  obtain ⟨front, rfl, below, rfl⟩ := h
  rw [List.append_assoc]
  refine ⟨by omega, by simp, ?_, ?_⟩
  · rw [List.getElem?_append_right (by omega)]
    simp
  · rw [List.getElem?_append_right (by omega)]
    simp

theorem message_insertions (holds : ∀ e ∈ log, e.HoldsOf ts) :
    (log.filter isInsertion).map message =
      (log.filterMap insertion?).map fun p => s!"Inserting blank line at {p.1}: {p.2.name}" := by
  induction log with
  | nil => rfl
  | cons e log ih =>
    obtain ⟨first, rest⟩ := List.forall_mem_cons.1 holds
    cases e with
    | blankLineInserted index r =>
      obtain ⟨front, rfl, -⟩ := first
      exact congrArg _ (ih rest)
    | _ => exact ih rest

theorem message_suppressions (log : List Event) :
    (log.filter isSuppression).map message =
      (log.filterMap droppedAt?).map fun length => s!"Suppressing newline at {length}, blank line already present" := by
  induction log with
  | nil => rfl
  | cons e log ih =>
    cases e with
    | newlineSuppressed length => exact congrArg _ ih
    | _ => exact ih

theorem message_passFinished (read written inserted : Nat) : (passFinished read written inserted).message =
    s!"Shaped {read} tokens into {written}, {inserted} blank lines inserted" :=
  rfl

theorem filter_isSummary (holds : ∀ e ∈ log, e.HoldsOf ts) : log.filter isSummary = [] := by
  rw [List.filter_eq_nil_iff]
  intro e member summary
  cases e with
  | passFinished read written inserted => exact holds _ member
  | _ => cases summary

/-- The entries for blank lines go down the tokens. -/
theorem pairwise_insertions (holds : ∀ e ∈ log, e.HoldsOf ts) (ordered : log.Pairwise Precedes) :
    (log.filterMap insertion?).Pairwise (·.1 < ·.1) := by
  rw [List.pairwise_filterMap]
  refine ordered.imp_of_mem ?_
  intro e e' member member' precedes p insertion p' insertion'
  cases e with
  | blankLineInserted index r =>
    cases e' with
    | blankLineInserted index' r' =>
      cases insertion
      cases insertion'
      obtain ⟨front, rfl, -⟩ := holds _ member
      have below : (front.length : Int) < index' := precedes
      show (front.length : Int).toNat < index'.toNat
      omega
    | _ => cases insertion'
  | _ => cases insertion

theorem pairwise_suppressions (ordered : log.Pairwise Precedes) : (log.filterMap droppedAt?).Pairwise (· ≤ ·) := by
  rw [List.pairwise_filterMap]
  refine ordered.imp ?_
  intro e e' precedes length dropped length' dropped'
  cases e with
  | newlineSuppressed length =>
    cases e' with
    | newlineSuppressed length' =>
      cases dropped
      cases dropped'
      exact precedes
    | _ => cases dropped'
  | _ => cases dropped

end Event

/-- **The log agrees with the result.** In a pass that logs blank lines the lines of the log for blank lines
are one for each reason, in order. They name slots that go down the returned tokens, and at each the tokens
hold a newline and another below it, with none above it. The lines for dropped newlines name places that go
down as well, and each has two newlines above it. The tokens read, less the newlines dropped, and the blank
lines are the tokens returned, and these numbers are in the line for the whole pass. -/
theorem shape_log (config : PassConfig) (logs : config.shaper.logBlankLines = true) (ts : List Token) :
    ∃ (shaped : Shaped) (s : Shaper) (inserted : List (Nat × Reason)) (dropped : List Nat),
      shape config ts = .ok shaped s ∧
      (s.log.filter Event.isInsertion).map Event.message =
        inserted.map (fun p => s!"Inserting blank line at {p.1}: {p.2.name}") ∧
      inserted.map Prod.snd = shaped.reasons ∧
      inserted.Pairwise (·.1 < ·.1) ∧
      (∀ p ∈ inserted, shaped.tokens[p.1]? = some .hardNewline ∧ shaped.tokens[p.1 + 1]? = some .hardNewline ∧
        (0 < p.1 → shaped.tokens[p.1 - 1]? ≠ some .hardNewline)) ∧
      (s.log.filter Event.isSuppression).map Event.message =
        dropped.map (fun length => s!"Suppressing newline at {length}, blank line already present") ∧
      dropped.Pairwise (· ≤ ·) ∧
      (∀ length ∈ dropped, 2 ≤ length ∧ length ≤ shaped.tokens.length ∧
        shaped.tokens[length - 2]? = some .hardNewline ∧ shaped.tokens[length - 1]? = some .hardNewline) ∧
      shaped.tokens.length + dropped.length = ts.length + shaped.insertedCount ∧
      (s.log.filter Event.isSummary).map Event.message = if config.logSummary
        then [s!"Shaped {ts.length} tokens into {shaped.tokens.length}, {shaped.insertedCount} blank lines inserted"]
        else [] := by
  have sound := Shaper.sound_fresh config.shaper
  have logged := (Shaper.logged_fresh config.shaper).advanceAll logs sound ts
  have shaped := shape_eq_finish config ts
  generalize ({ config := config.shaper } : Shaper).advanceAll ts = s at logged shaped
  have holds (e : Event) (member : e ∈ s.log) : e.HoldsOf s.buffer :=
    (logged.holds e member).mono (settled_prefix_buffer s.buffer)
  -- The line for the whole pass comes after the others and is none of them.
  have log (p : Event → Bool) (other : ∀ read written inserted, p (.passFinished read written inserted) = false) :
      (s.finish config.logSummary ts.length).log.filter p = s.log.filter p := by
    unfold Shaper.finish
    cases config.logSummary <;> simp [other]
  refine ⟨_, _, s.log.filterMap Event.insertion?, s.log.filterMap Event.droppedAt?, shaped, ?_, logged.reasons,
    Event.pairwise_insertions holds logged.ordered, ?_, ?_, Event.pairwise_suppressions logged.ordered, ?_, ?_, ?_⟩
  · rw [log Event.isInsertion fun _ _ _ => rfl, Event.message_insertions holds]
  · intro p member
    obtain ⟨e, entry, insertion⟩ := List.mem_filterMap.1 member
    cases e with
    | blankLineInserted index r =>
      cases insertion
      exact (holds _ entry).insertion
    | _ => cases insertion
  · rw [log Event.isSuppression fun _ _ _ => rfl, Event.message_suppressions]
  · intro length member
    obtain ⟨e, entry, dropped⟩ := List.mem_filterMap.1 member
    cases e with
    | newlineSuppressed length =>
      cases dropped
      exact (holds _ entry).suppression
    | _ => cases dropped
  · have length := logged.length
    rwa [Nat.zero_add] at length
  · have summary : (s.finish config.logSummary ts.length).log.filter Event.isSummary =
        if config.logSummary then [.passFinished ts.length s.buffer.length s.reasons.length] else [] := by
      simp only [Shaper.finish, List.filter_append, Event.filter_isSummary holds, List.nil_append]
      cases config.logSummary <;> rfl
    rw [summary]
    cases config.logSummary with
    | true => exact congrArg (fun line : String => [line]) (Event.message_passFinished ..)
    | false => rfl

/-- A blank line in place of one that the stream holds, one above a comment, and a newline too many. -/
theorem shape_log_of_require :
    let ts : List Token := [.indent 0, .text "require", .text "a", .hardNewline, .hardNewline, .indent 0, .classWord,
      .hardNewline, .indent 0, .endWord, .hardNewline, .comment "c", .hardNewline, .hardNewline, .hardNewline]
    ({} : PassConfig).shaper.logBlankLines = true ∧
      ∃ (shaped : Shaped) (s : Shaper) (inserted : List (Nat × Reason)) (dropped : List Nat),
        shape {} ts = .ok shaped s ∧ inserted.map Prod.snd = shaped.reasons ∧ inserted.Pairwise (·.1 < ·.1) ∧
        (∀ p ∈ inserted, shaped.tokens[p.1]? = some .hardNewline ∧ shaped.tokens[p.1 + 1]? = some .hardNewline ∧
          (0 < p.1 → shaped.tokens[p.1 - 1]? ≠ some .hardNewline)) ∧
        dropped.Pairwise (· ≤ ·) ∧ shaped.tokens.length + dropped.length = ts.length + shaped.insertedCount ∧
        shaped.reasons = [.endOfRequireBlock, .commentAfterEnd] ∧ shaped.tokens.length = 15 := by
  intro ts
  obtain ⟨shaped, s, inserted, dropped, passed, -, reasons, ordered, places, -, drops, -, lengths, -⟩ :=
    shape_log {} rfl ts
  refine ⟨rfl, shaped, s, inserted, dropped, passed, reasons, ordered, places, drops, lengths, ?_⟩
  rw [shape_eq_finish] at passed
  cases passed
  decide

end Interline
