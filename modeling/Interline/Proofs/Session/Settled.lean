import Interline.Proofs.Pass.Run
import Interline.Proofs.Session.Sound
import Interline.Proofs.Shaper.Settled

/-!
# Settled tokens of a session

In a session of regular requests that reports no stale mark the mark never goes back, and the tokens
up to the mark stand at the front of every later buffer; so they do in the result of a pass. This is
`runAll_keeps_settled`.
-/

namespace Interline.Shaper
set_option autoImplicit false

variable {s s' : Shaper}

theorem answerAll_append (s : Shaper) (qs later : List Request) :
    s.answerAll (qs ++ later) = s.answerAll qs ++ (s.runAll qs).answerAll later := by
  induction qs generalizing s with
  | nil => rfl
  | cons q qs ih => exact congrArg (s.answer q :: ·) (ih _)

theorem Sound.settled_dropFiller (h : s.Sound) (below : ¬ EndsInFiller s.buffer) :
    settled s.buffer <+: settled s.dropFiller.buffer := by
  rcases h.dropFiller_cases with ⟨-, ⟨unmarked, -⟩ | ⟨front, back, back', before, after⟩⟩ | ⟨inFront, -⟩
  · rw [settled_of_not_mem unmarked.buffer]
    exact List.nil_prefix
  · exact before.toMarkedAt.settled_same after.toMarkedAt
  · exact absurd inFront below

/-- **One move** rewrites no settled token. -/
theorem Sound.settled_moves (h : s.Sound) (move : Moves s s') : settled s.buffer <+: settled s'.buffer := by
  cases move with
  | clearLog => exact List.prefix_rfl
  | push t => exact h.settled_advance t
  | addBlankLine marked missing r => exact marked.toMarkedAt.settled_below (marked.toMarkedAt.addBlankLine r)
  | dropFiller below => exact h.settled_dropFiller below

theorem Sound.settled_reaches (h : s.Sound) (reach : Reaches s s') : settled s.buffer <+: settled s'.buffer := by
  induction reach with
  | refl => exact List.prefix_rfl
  | tail reach move ih => exact ih.trans ((h.reaches reach).1.settled_moves move)

theorem Sound.mark_le (h : s.Sound) (reach : Reaches s s') : s.mark ≤ s'.mark := by
  have longer := (h.settled_reaches reach).length_le
  rw [h.mark_eq, (h.reaches reach).1.mark_eq]
  omega

/-- The tokens up to the mark stand at the front of every later buffer. -/
theorem Sound.take_mark_isPrefix (h : s.Sound) (reach : Reaches s s') (newline : .hardNewline ∈ s.buffer) :
    ∃ n : Nat, s.mark = n ∧ s.buffer.take (n + 1) <+: s'.buffer := by
  obtain ⟨n, mark, upTo⟩ := h.take_mark newline
  refine ⟨n, mark, ?_⟩
  rw [upTo]
  exact (h.settled_reaches reach).trans (settled_prefix_buffer _)

/-- **Settled tokens stay.** From each state of a session of regular requests that reports no stale mark
to each later one the mark does not go back, and once a line has ended the tokens up to the mark are a
prefix of every later buffer. What a pass over `xs` alone has settled is a prefix of the result of a
pass over `xs` and more. -/
theorem runAll_keeps_settled (config : PassConfig) :
    (∀ qs later : List Request, config.shaper.checkMark = true → (∀ q ∈ qs ++ later, q.isRegular = true) →
      (∀ step ∈ ({ config := config.shaper } : Shaper).answerAll (qs ++ later), ¬ step.IsStale) →
      let s := ({ config := config.shaper } : Shaper).runAll qs
      let s' := s.runAll later
      s.mark ≤ s'.mark ∧
        (.hardNewline ∈ s.buffer → ∃ n : Nat, s.mark = n ∧ s.buffer.take (n + 1) <+: s'.buffer)) ∧
    ∀ xs ys : List Token, ∃ (s s' : Shaper) (shaped : Shaped),
      pushAll xs { config := config.shaper } = .ok () s ∧ shape config (xs ++ ys) = .ok shaped s' ∧
        (.hardNewline ∈ s.buffer → ∃ n : Nat, s.mark = n ∧ s.buffer.take (n + 1) <+: shaped.tokens) := by
  have start := sound_fresh config.shaper
  constructor
  · intro qs later checks regular fresh s s'
    obtain ⟨regular, regularLater⟩ := List.forall_mem_append.1 regular
    rw [answerAll_append] at fresh
    obtain ⟨fresh, freshLater⟩ := List.forall_mem_append.1 fresh
    obtain ⟨sound, config⟩ := start.reaches (start.runAll_reaches checks regular fresh)
    have reach : Reaches s s' := sound.runAll_reaches (config ▸ checks) regularLater freshLater
    exact ⟨sound.mark_le reach, sound.take_mark_isPrefix reach⟩
  · intro xs ys
    obtain ⟨pushed, sound⟩ := start.pushAll xs
    obtain ⟨s', shaped⟩ := shape_eq config (xs ++ ys)
    refine ⟨_, s', _, pushed, shaped, ?_⟩
    rw [advanceAll_append]
    exact sound.take_mark_isPrefix (Reaches.advanceAll _ ys)

/-- A session in two parts, with a removal of filler and a blank line in the second. -/
theorem runAll_keeps_settled_of_mixed :
    let qs : List Request := [.pushAll [.indent 0, .text "f", .hardNewline, .delimiter "(", .comma], .insertBlankLine .doKeyword]
    let later : List Request := [.pushAll [.space, .delimiter ")"], .clearFiller, .push .hardNewline, .insertBlankLine .conditional]
    let s := ({} : Shaper).runAll qs
    let s' := s.runAll later
    (∀ step ∈ ({} : Shaper).answerAll (qs ++ later), ¬ step.IsStale) ∧ s.mark ≤ s'.mark ∧
      (.hardNewline ∈ s.buffer → ∃ n : Nat, s.mark = n ∧ s.buffer.take (n + 1) <+: s'.buffer) :=
  ⟨by decide, (runAll_keeps_settled {}).1 _ _ rfl (by decide) (by decide)⟩

end Interline.Shaper
