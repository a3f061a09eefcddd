import Interline.Proofs.Session.Sound
import Interline.Proofs.Shaper.Window
import Mathlib.Data.List.Forall2

/-!
# How far back a session looks

Two shapers whose buffers end in the same window, with the mark inside it, cannot be told apart by
what they write: `answerAll_agree` says that the same pushes and requests for blank lines end alike on
both and leave the same window again, whatever stands in front of it. Each of the two sessions is
compared with that of the window alone.
-/

namespace Interline
set_option autoImplicit false

/-- The request pushes a token or asks for a blank line. -/
def Request.isWrite : Request → Bool
  | .push _ | .insertBlankLine _ => true
  | _ => false

/-- Two steps that end alike with `front` and `front'` in front of one window, where `rs` and `rs'` are
the reasons before the session. The positions in a fault differ by what stands in front. -/
structure Step.Agree (front front' : List Token) (rs rs' : List Reason) (step step' : Step) : Prop where
  fault : ∃ fault : Option Fault, step.fault? = fault.map (Fault.shift front.length) ∧
    step'.fault? = fault.map (Fault.shift front'.length)
  buffer : ∃ window, step.after.buffer = front ++ window ∧ step'.after.buffer = front' ++ window
  mark : ∃ mark : Nat, step.after.mark = front.length + mark ∧ step'.after.mark = front'.length + mark
  current : step.after.current = step'.after.current
  previous : step.after.previous = step'.after.previous
  reasons : ∃ added, step.after.reasons = rs ++ added ∧ step'.after.reasons = rs' ++ added

namespace Shaper

variable {s : Shaper} (front : List Token) (rs : List Reason)

theorem after_outcomeBehind (step : Step) : Step.after (outcomeBehind front rs step) = step.after.behind front rs := by
  cases step <;> rfl

theorem fault_outcomeBehind (step : Step) :
    Step.fault? (outcomeBehind front rs step) = step.fault?.map (Fault.shift front.length) := by
  cases step <;> rfl

/-- An operation with nothing to return, as a request. -/
theorem perform_done_behind {operation : ShaperM Unit}
    (same : operation (s.behind front rs) = outcomeBehind front rs (operation s)) :
    (do operation; return Reply.done : ShaperM Reply) (s.behind front rs) =
      outcomeBehind front rs ((do operation; return Reply.done : ShaperM Reply) s) := by
  rw [perform_done, perform_done, same]
  cases operation s <;> rfl

theorem perform_done_leavesWindow {operation : ShaperM Unit} (left : LeavesWindow (operation s)) :
    Step.after ((do operation; return Reply.done : ShaperM Reply) s) |>.Window := by
  rw [perform_done]
  cases ended : operation s <;> rwa [ended] at left

theorem Window.clearLog (h : s.Window) : ({ s with log := [] } : Shaper).Window :=
  ⟨h.long, h.mark, h.inside⟩

/-- **One request** is answered alike with more in front. -/
theorem Window.answer_behind (h : s.Window) {q : Request} (writes : q.isWrite = true) :
    (s.behind front rs).answer q = outcomeBehind front rs (s.answer q) := by
  have cleared : ({ s.behind front rs with log := [] } : Shaper) = ({ s with log := [] } : Shaper).behind front rs := rfl
  rw [answer, answer, cleared]
  cases q with
  | push t => exact perform_done_behind front rs (h.clearLog.push_behind front rs t)
  | insertBlankLine reason => exact perform_done_behind front rs (h.clearLog.insertBlankLine_behind front rs reason)
  | _ => cases writes

theorem Window.answer (h : s.Window) {q : Request} (writes : q.isWrite = true) : (s.answer q).after.Window := by
  cases q with
  | push t => exact perform_done_leavesWindow (h.clearLog.push t)
  | insertBlankLine reason => exact perform_done_leavesWindow (h.clearLog.insertBlankLine reason)
  | _ => cases writes

theorem Window.answerAll (h : s.Window) {qs : List Request} (writes : ∀ q ∈ qs, q.isWrite = true) :
    ∀ step ∈ s.answerAll qs, step.after.Window := by
  induction qs generalizing s with
  | nil => simp [Shaper.answerAll]
  | cons q qs ih =>
    obtain ⟨first, others⟩ := List.forall_mem_cons.1 writes
    have left := h.answer first
    exact List.forall_mem_cons.2 ⟨left, ih left others⟩

/-- **A session** of writes is answered alike with more in front. -/
theorem Window.answerAll_behind (h : s.Window) {qs : List Request} (writes : ∀ q ∈ qs, q.isWrite = true) :
    (s.behind front rs).answerAll qs = (s.answerAll qs).map (outcomeBehind front rs) := by
  induction qs generalizing s with
  | nil => rfl
  | cons q qs ih =>
    obtain ⟨first, others⟩ := List.forall_mem_cons.1 writes
    rw [Shaper.answerAll, Shaper.answerAll, h.answer_behind front rs first, after_outcomeBehind,
      ih (h.answer first) others, List.map_cons]

theorem answerAll_clearLog (s : Shaper) (qs : List Request) :
    ({ s with log := [] } : Shaper).answerAll qs = s.answerAll qs := by
  cases qs <;> rfl

/-- What two steps on a window with different things in front have in common. -/
theorem agree_outcomeBehind {step : Step} (left : step.after.Window) (front front' : List Token) (rs rs' : List Reason) :
    Step.Agree front front' rs rs' (outcomeBehind front rs step) (outcomeBehind front' rs' step) := by
  have mark : ∃ n : Nat, step.after.mark = n := Int.eq_ofNat_of_zero_le (Int.le_trans (by decide) left.mark)
  obtain ⟨n, mark⟩ := mark
  constructor
  · exact ⟨step.fault?, fault_outcomeBehind front rs step, fault_outcomeBehind front' rs' step⟩
  all_goals rw [after_outcomeBehind, after_outcomeBehind]
  · exact ⟨step.after.buffer, rfl, rfl⟩
  · exact ⟨n, by rw [behind_mark, mark], by rw [behind_mark, mark]⟩
  · rfl
  · rfl
  · exact ⟨step.after.reasons, rfl, rfl⟩

/-- **Bounded lookback.** Two shapers that agree in the settings, in what they know of the lines, and in a
window at the end of the buffer that holds four tokens and the mark with the two slots before it, answer
the same pushes and requests for blank lines alike. -/
theorem answerAll_agree (s s' : Shaper) (front front' window : List Token) (mark : Nat)
    (buffer : s.buffer = front ++ window) (buffer' : s'.buffer = front' ++ window) (long : 4 ≤ window.length)
    (marked : s.mark = front.length + mark) (marked' : s'.mark = front'.length + mark)
    (inside : 2 ≤ mark ∧ mark < window.length) (config : s.config = s'.config) (current : s.current = s'.current)
    (previous : s.previous = s'.previous) (untaken : s.taken = false) (untaken' : s'.taken = false)
    (qs : List Request) (writes : ∀ q ∈ qs, q.isWrite = true) :
    List.Forall₂ (Step.Agree front front' s.reasons s'.reasons) (s.answerAll qs) (s'.answerAll qs) := by
  let alone : Shaper := { config := s.config, buffer := window, mark, current := s.current, previous := s.previous }
  have fits : alone.Window := ⟨long, Int.ofNat_le.2 inside.1, Int.ofNat_lt.2 inside.2⟩
  have one : ({ s with log := [] } : Shaper) = alone.behind front s.reasons := by
    simp [alone, behind, ← buffer, ← marked, ← untaken]
  have two : ({ s' with log := [] } : Shaper) = alone.behind front' s'.reasons := by
    simp [alone, behind, ← buffer', ← marked', ← untaken', config, current, previous]
  rw [← answerAll_clearLog s, ← answerAll_clearLog s', one, two, fits.answerAll_behind front s.reasons writes,
    fits.answerAll_behind front' s'.reasons writes, List.forall₂_map_left_iff, List.forall₂_map_right_iff,
    List.forall₂_same]
  intro step member
  exact agree_outcomeBehind (fits.answerAll writes step member) front front' s.reasons s'.reasons

/-- A comment below an `end`, a `do` that finds its blank line there, and a newline too many. -/
theorem answerAll_agree_of_comment :
    let s : Shaper :=
      { buffer := [.text "f", .hardNewline, .endWord, .hardNewline], mark := 3
        previous := some { hasEnd := true, hasDo := true } }
    let s' : Shaper := { s with buffer := [.indent 1, .text "x"] ++ s.buffer, mark := 5, reasons := [.classOrModule] }
    let qs : List Request := [.push (.comment "c"), .push .doWord, .insertBlankLine .doKeyword, .push .hardNewline,
      .push .hardNewline, .push .hardNewline]
    List.Forall₂ (Step.Agree [] [.indent 1, .text "x"] s.reasons s'.reasons) (s.answerAll qs) (s'.answerAll qs) := by
  intro s s' qs
  have writes : ∀ q ∈ qs, q.isWrite = true := by decide
  exact answerAll_agree s s' [] [.indent 1, .text "x"] s.buffer 3 rfl rfl (by decide) rfl rfl (by decide) rfl rfl rfl
    rfl rfl qs writes

end Shaper

end Interline
