import Interline.Proofs.Session.Sound

/-!
# The faults of a sound shaper

Which requests a sound shaper refuses, and with which fault: no push; a blank line as long as no
line has ended; and a removal of filler where there are too few tokens, or where the filler stands
in front of the newline that is marked. `runAll_fault_iff` says so of every state that a session of
regular requests reaches.
-/

namespace Interline
set_option autoImplicit false

namespace Shaper

variable {s : Shaper}

/-- A blank line fails exactly while no line has ended. -/
theorem Sound.insertBlankLine_error_iff (h : s.Sound) (checks : s.config.checkMark = true) (r : Reason) (fault : Fault) :
    (∃ s', Shaper.insertBlankLine r s = .error fault s') ↔
      .hardNewline ∉ s.buffer ∧ fault = .staleMark 1 s.buffer.head? := by
  rcases h.mark with unmarked | ⟨front, back, marked⟩
  · rw [unmarked.insertBlankLine_eq checks, and_iff_right unmarked.buffer]
    simp [eq_comm]
  · rw [marked.insertBlankLine_eq, marked.buffer]
    simp

theorem Sound.clearFiller_error_iff (h : s.Sound) (checks : s.config.checkMark = true) (fault : Fault) :
    (∃ s', Shaper.clearFiller s = .error fault s') ↔
      s.buffer.length < 2 ∧ fault = .bufferTooShort s.buffer.length 2 ∨
        EndsInFiller s.buffer ∧ fault = .staleMark (s.buffer.length - 1) none := by
  rcases h.clearFiller checks with ⟨short, refused⟩ | ⟨long, below, cleared⟩ | ⟨inFront, stale⟩
  · rw [refused]
    simp [short, not_endsInFiller_of_short short, eq_comm]
  · rw [cleared]
    simp [Nat.not_lt.2 long, below]
  · have long : ¬ s.buffer.length < 2 := mt not_endsInFiller_of_short (not_not.2 inFront)
    rw [stale]
    simp [long, inFront, eq_comm]

/-! ## Requests -/

/-- The fault of a request that has nothing to return is the fault of its operation. -/
theorem fault_perform_done (operation : ShaperM Unit) (s : Shaper) (fault : Fault) :
    Step.fault? ((do operation; return Reply.done : ShaperM Reply) s) = some fault ↔
      ∃ s', operation s = .error fault s' := by
  rw [perform_done]
  cases operation s <;> simp [Step.fault?]

theorem Sound.fault_push (h : s.Sound) (t : Token) : (s.answer (.push t)).fault? = none := by
  rw [Shaper.answer, perform, perform_done, (h.clearLog.push t).1]
  rfl

theorem Sound.fault_insertBlankLine (h : s.Sound) (checks : s.config.checkMark = true) (r : Reason) (fault : Fault) :
    (s.answer (.insertBlankLine r)).fault? = some fault ↔
      .hardNewline ∉ s.buffer ∧ fault = .staleMark 1 s.buffer.head? := by
  rw [Shaper.answer, perform, fault_perform_done]
  exact h.clearLog.insertBlankLine_error_iff checks r fault

theorem Sound.fault_clearFiller (h : s.Sound) (checks : s.config.checkMark = true) (fault : Fault) :
    (s.answer .clearFiller).fault? = some fault ↔
      s.buffer.length < 2 ∧ fault = .bufferTooShort s.buffer.length 2 ∨
        EndsInFiller s.buffer ∧ fault = .staleMark (s.buffer.length - 1) none := by
  rw [Shaper.answer, perform, fault_perform_done]
  exact h.clearLog.clearFiller_error_iff checks fault

/-- **The faults after a session** of regular requests that reported no stale mark: a push has none,
and of a blank line and of a removal of filler exactly the given ones. -/
theorem runAll_fault_iff (config : ShaperConfig) (qs : List Request) (checks : config.checkMark = true)
    (regular : ∀ q ∈ qs, q.isRegular = true) (fresh : ∀ step ∈ ({ config } : Shaper).answerAll qs, ¬ step.IsStale) :
    let s := ({ config } : Shaper).runAll qs
    (∀ t, (s.answer (.push t)).fault? = none) ∧
    (∀ r fault, (s.answer (.insertBlankLine r)).fault? = some fault ↔
      .hardNewline ∉ s.buffer ∧ fault = .staleMark 1 s.buffer.head?) ∧
    ∀ fault, (s.answer .clearFiller).fault? = some fault ↔
      s.buffer.length < 2 ∧ fault = .bufferTooShort s.buffer.length 2 ∨
        EndsInFiller s.buffer ∧ fault = .staleMark (s.buffer.length - 1) none := by
  intro s
  obtain ⟨sound, config⟩ := (sound_fresh config).reaches ((sound_fresh config).runAll_reaches checks regular fresh)
  have checked : s.config.checkMark = true := config ▸ checks
  exact ⟨sound.fault_push, sound.fault_insertBlankLine checked, sound.fault_clearFiller checked⟩

/-- Two removals, of which the first is refused; then filler in front of a newline that ends a line. -/
theorem runAll_fault_iff_of_filler :
    let qs : List Request := [.clearFiller, .pushAll [.text "f", .hardNewline, .delimiter "(", .comma, .delimiter ")"],
      .clearFiller, .insertBlankLine .doKeyword, .lastFour, .pushAll [.comma, .space, .hardNewline], .length]
    let s := ({} : Shaper).runAll qs
    (∀ step ∈ ({} : Shaper).answerAll qs, ¬ step.IsStale) ∧
    (∀ t, (s.answer (.push t)).fault? = none) ∧
    (∀ r fault, (s.answer (.insertBlankLine r)).fault? = some fault ↔
      .hardNewline ∉ s.buffer ∧ fault = .staleMark 1 s.buffer.head?) ∧
    ∀ fault, (s.answer .clearFiller).fault? = some fault ↔
      s.buffer.length < 2 ∧ fault = .bufferTooShort s.buffer.length 2 ∨
        EndsInFiller s.buffer ∧ fault = .staleMark (s.buffer.length - 1) none :=
  ⟨by decide, runAll_fault_iff {} _ rfl (by decide) (by decide)⟩

end Shaper

end Interline
