import Interline.Proofs.Pass.Run
import Interline.Proofs.Session.Sound
import Interline.Proofs.Shaper.Settings
import Mathlib.Data.List.Forall2

/-!
# Sessions under different settings

Two sessions of the same requests under different settings go the same way: with the checks on and off
up to the first fault of a check, and with blank lines logged and not logged to the end, the log entries
for blank lines aside. A pass returns the same under all settings. This is `answerAll_alike`; each of two
sessions is compared with the one under the settings that both allow (`answerAll_within`).
-/

namespace Interline
set_option autoImplicit false

/-- The change under the limit: what the limit switches off stays off. -/
def ShaperConfig.Change.within (limit : ShaperConfig) (change : ShaperConfig.Change) : ShaperConfig.Change where
  checkMark := if limit.checkMark then change.checkMark else none
  logBlankLines := if limit.logBlankLines then change.logBlankLines else none

theorem ShaperConfig.apply_within (limit config : ShaperConfig) (change : ShaperConfig.Change) :
    (limit.within config).apply (change.within limit) = limit.within (config.apply change) := by
  rcases limit with ⟨_ | _, _ | _⟩ <;> simp [ShaperConfig.within, Change.within, ShaperConfig.apply]

namespace Request

def within (limit : ShaperConfig) : Request → Request
  | configure change => configure (change.within limit)
  | q => q

/-- The request changes the settings. -/
def isConfigure : Request → Bool
  | configure _ => true
  | _ => false

/-- The two requests are the same, or set the same but for what is logged. -/
inductive SameButLogging : Request → Request → Prop where
  | same (q : Request) : SameButLogging q q
  | configure (checkMark logs logs' : Option Bool) :
      SameButLogging (.configure ⟨checkMark, logs⟩) (.configure ⟨checkMark, logs'⟩)

end Request

namespace Step

def reply? : Step → Option Reply
  | .ok reply _ => some reply
  | .error _ _ => none

/-- The step ended with the fault of a check that the settings switch on. -/
def failsCheck (step : Step) : Bool :=
  step.fault?.any Fault.isFromCheck

/-- The two steps end alike and leave the same state, the settings and the log aside. -/
structure Alike (step step' : Step) : Prop where
  reply : step.reply? = step'.reply?
  fault : step.fault? = step'.fault?
  buffer : step.after.buffer = step'.after.buffer
  mark : step.after.mark = step'.after.mark
  current : step.after.current = step'.after.current
  previous : step.after.previous = step'.after.previous
  reasons : step.after.reasons = step'.after.reasons
  taken : step.after.taken = step'.after.taken

theorem Alike.symm {step step' : Step} (h : step.Alike step') : step'.Alike step :=
  ⟨h.reply.symm, h.fault.symm, h.buffer.symm, h.mark.symm, h.current.symm, h.previous.symm, h.reasons.symm,
    h.taken.symm⟩

theorem Alike.trans {step step' step'' : Step} (h : step.Alike step') (h' : step'.Alike step'') : step.Alike step'' :=
  ⟨h.reply.trans h'.reply, h.fault.trans h'.fault, h.buffer.trans h'.buffer, h.mark.trans h'.mark,
    h.current.trans h'.current, h.previous.trans h'.previous, h.reasons.trans h'.reasons, h.taken.trans h'.taken⟩

/-- The step under the limit. -/
def within (limit : ShaperConfig) : Step → Step
  | .ok reply s => .ok reply (s.within limit)
  | .error fault s => .error fault (s.within limit)

variable (limit : ShaperConfig) (step : Step)

theorem alike_within : step.Alike (step.within limit) := by
  cases step <;> exact ⟨rfl, rfl, rfl, rfl, rfl, rfl, rfl, rfl⟩

theorem log_within : (step.within limit).after.log = step.after.log.filter limit.keeps := by
  cases step <;> rfl

end Step

namespace Shaper

section Within

variable (limit : ShaperConfig) (s : Shaper)

/-- **One request** under the limit. -/
theorem perform_follows (q : Request) : Follows limit (perform q s) (perform (q.within limit) (s.within limit)) := by
  cases q with
  | push t => exact (push_follows limit s t).bind fun _ => .ok Reply.done
  | pushAll ts => exact (pushAll_follows limit s ts).bind fun _ => .ok Reply.done
  | insertBlankLine r => exact (insertBlankLine_follows limit s r).bind fun _ => .ok Reply.done
  | clearFiller => exact (clearFiller_follows limit s).bind fun _ => .ok Reply.done
  | lastFour => exact .ok (Reply.lastFour s.lastFour?) s
  | length => exact .ok (Reply.length s.buffer.length) s
  | takeTokens => exact (takeTokens_follows limit s).bind fun ts => .ok (Reply.tokens ts)
  | setMark mark => exact .ok Reply.done { s with mark }
  | configure change =>
    have applied : (s.within limit).config.apply (change.within limit) = limit.within (s.config.apply change) :=
      limit.apply_within s.config change
    show Follows limit (.ok Reply.done { s with config := s.config.apply change })
      (.ok Reply.done { s.within limit with config := (s.within limit).config.apply (change.within limit) })
    rw [applied]
    exact .ok Reply.done { s with config := s.config.apply change }

/-- A step that ends in no fault of a check that is off under the limit is the same step under the limit. -/
theorem answer_within (q : Request) (passes : limit.checkMark = true ∨ (s.answer q).failsCheck = false) :
    (s.within limit).answer (q.within limit) = (s.answer q).within limit := by
  have follows := perform_follows limit { s with log := [] } q
  rw [answer] at passes
  rw [answer, answer]
  change Follows limit _ (perform (q.within limit) { s.within limit with log := [] }) at follows
  generalize perform q { s with log := [] } = step,
    perform (q.within limit) { s.within limit with log := [] } = step' at follows passes
  cases follows with
  | ok reply s => rfl
  | error fault s => rfl
  | checked off fault fromCheck s =>
    rcases passes with checks | passes
    · cases off.symm.trans checks
    · cases passes.symm.trans fromCheck

/-- **A session** under the limit. -/
theorem answerAll_within (qs : List Request)
    (passes : limit.checkMark = true ∨ ∀ step ∈ s.answerAll qs, step.failsCheck = false) :
    (s.within limit).answerAll (qs.map (Request.within limit)) = (s.answerAll qs).map (Step.within limit) := by
  induction qs generalizing s with
  | nil => rfl
  | cons q qs ih =>
    rw [answerAll, List.forall_mem_cons, or_and_left] at passes
    obtain ⟨first, others⟩ := passes
    have after : ((s.answer q).within limit).after = (s.answer q).after.within limit := by
      cases s.answer q <;> rfl
    rw [List.map_cons, answerAll, answerAll, answer_within limit s q first, after, ih _ others, List.map_cons]

end Within

theorem answerAll_take (s : Shaper) (qs : List Request) (n : Nat) : (s.answerAll qs).take n = s.answerAll (qs.take n) := by
  induction qs generalizing s n with
  | nil => simp [answerAll]
  | cons q qs ih =>
    cases n with
    | zero => rfl
    | succ n => exact congrArg (s.answer q :: ·) (ih _ n)

theorem map_within_of_not_isConfigure (limit : ShaperConfig) {qs : List Request} (steady : ∀ q ∈ qs, q.isConfigure = false) :
    qs.map (Request.within limit) = qs := by
  rw [List.map_congr_left, List.map_id]
  intro q member
  have other := steady q member
  cases q with
  | configure change => cases other
  | _ => rfl

/-- With the checks off a session goes as with the checks on, until a check would have failed. -/
theorem answerAll_alike_of_checks (logs : Bool) {qs : List Request} (steady : ∀ q ∈ qs, q.isConfigure = false)
    (passes : ∀ step ∈ ({ config := ⟨true, logs⟩ } : Shaper).answerAll qs, step.failsCheck = false) :
    List.Forall₂ (fun step step' => step.Alike step' ∧ step.after.log = step'.after.log)
      (({ config := ⟨true, logs⟩ } : Shaper).answerAll qs) (({ config := ⟨false, logs⟩ } : Shaper).answerAll qs) := by
  have start : ({ config := ⟨false, logs⟩ } : Shaper) = ({ config := ⟨true, logs⟩ } : Shaper).within ⟨false, true⟩ := by
    simp [within, ShaperConfig.within]
  have session := answerAll_within ⟨false, true⟩ { config := ⟨true, logs⟩ } qs (Or.inr passes)
  rw [map_within_of_not_isConfigure _ steady] at session
  rw [start, session, List.forall₂_map_right_iff, List.forall₂_same]
  intro step _
  refine ⟨step.alike_within _, ?_⟩
  rw [step.log_within, List.filter_eq_self.2]
  intro _ _
  rfl

theorem map_within_of_sameButLogging {qs qs' : List Request} (same : List.Forall₂ Request.SameButLogging qs qs') :
    qs.map (Request.within ⟨true, false⟩) = qs'.map (Request.within ⟨true, false⟩) := by
  induction same with
  | nil => rfl
  | cons one _ ih =>
    rw [List.map_cons, List.map_cons, ih]
    cases one <;> rfl

/-- With other blank lines logged a session goes the same way, and logs the same but for blank lines. -/
theorem answerAll_alike_of_logging (checks logs logs' : Bool) {qs qs' : List Request}
    (same : List.Forall₂ Request.SameButLogging qs qs') :
    List.Forall₂ (fun step step' => step.Alike step' ∧
        step.after.log.filter (!·.isInsertion) = step'.after.log.filter (!·.isInsertion))
      (({ config := ⟨checks, logs⟩ } : Shaper).answerAll qs) (({ config := ⟨checks, logs'⟩ } : Shaper).answerAll qs') := by
  have start : ({ config := ⟨checks, logs⟩ } : Shaper).within ⟨true, false⟩ =
      ({ config := ⟨checks, logs'⟩ } : Shaper).within ⟨true, false⟩ := by
    simp [within, ShaperConfig.within]
  have one := answerAll_within ⟨true, false⟩ { config := ⟨checks, logs⟩ } qs (Or.inl rfl)
  have two := answerAll_within ⟨true, false⟩ { config := ⟨checks, logs'⟩ } qs' (Or.inl rfl)
  rw [start, map_within_of_sameButLogging same, two, ← List.forall₂_eq_eq_eq, List.forall₂_map_left_iff,
    List.forall₂_map_right_iff] at one
  apply List.Forall₂.imp _ one.flip
  intro step step' limited
  refine ⟨(step.alike_within _).trans (limited ▸ (step'.alike_within _).symm), ?_⟩
  have logged := congrArg (fun step : Step => step.after.log) limited
  rw [Step.log_within, Step.log_within] at logged
  exact logged.symm

/-- **The settings do not matter** for what is written. (1) A session that leaves the settings alone goes with
the checks on as it goes with them off, as long as no check has failed. (2) Two sessions that differ in what
they log go the same way, and their logs differ in the entries for blank lines only. (3) A pass returns the
same tokens and reasons under all settings. -/
theorem answerAll_alike :
    (∀ (logs : Bool) (qs : List Request) (n : Nat), (∀ q ∈ qs, q.isConfigure = false) →
      let checked := ({ config := ⟨true, logs⟩ } : Shaper).answerAll qs
      let unchecked := ({ config := ⟨false, logs⟩ } : Shaper).answerAll qs
      (∀ step ∈ checked.take n, step.failsCheck = false) →
        List.Forall₂ (fun step step' => step.Alike step' ∧ step.after.log = step'.after.log)
          (checked.take n) (unchecked.take n)) ∧
    (∀ (checks logs logs' : Bool) (qs qs' : List Request), List.Forall₂ Request.SameButLogging qs qs' →
      List.Forall₂ (fun step step' => step.Alike step' ∧
          step.after.log.filter (!·.isInsertion) = step'.after.log.filter (!·.isInsertion))
        (({ config := ⟨checks, logs⟩ } : Shaper).answerAll qs) (({ config := ⟨checks, logs'⟩ } : Shaper).answerAll qs')) ∧
    ∀ (config config' : PassConfig) (ts : List Token), ∃ (shaped : Shaped) (s s' : Shaper),
      shape config ts = .ok shaped s ∧ shape config' ts = .ok shaped s' := by
  refine ⟨?_, fun checks logs logs' qs qs' => answerAll_alike_of_logging checks logs logs', ?_⟩
  · intro logs qs n steady checked unchecked passes
    rw [answerAll_take] at passes ⊢
    rw [answerAll_take]
    exact answerAll_alike_of_checks logs (fun q member => steady q (List.mem_of_mem_take member)) passes
  · intro config config' ts
    obtain ⟨s, shaped⟩ := shape_eq_spaced config ts
    obtain ⟨s', shaped'⟩ := shape_eq_spaced config' ts
    exact ⟨_, s, s', shaped, shaped'⟩

/-- A session whose fourth request, a blank line after the tokens were taken, fails with the checks on; and two
sessions of which the one begins to log where the other goes on logging. -/
theorem answerAll_alike_of_taken :
    let qs : List Request := [.pushAll [.text "f", .hardNewline, .classWord], .takeTokens, .push .comma,
      .insertBlankLine .conditional]
    let checked := ({ config := ⟨true, true⟩ } : Shaper).answerAll qs
    let unchecked := ({ config := ⟨false, true⟩ } : Shaper).answerAll qs
    let front : List Request := [.pushAll [.text "f", .hardNewline, .classWord]]
    let back : List Request := [.push .hardNewline, .insertBlankLine .conditional]
    (∀ step ∈ checked.take 3, step.failsCheck = false) ∧ (∃ step ∈ checked, step.failsCheck = true) ∧
    List.Forall₂ (fun step step' => step.Alike step' ∧ step.after.log = step'.after.log)
      (checked.take 3) (unchecked.take 3) ∧
    List.Forall₂ (fun step step' => step.Alike step' ∧
        step.after.log.filter (!·.isInsertion) = step'.after.log.filter (!·.isInsertion))
      (({ config := ⟨true, false⟩ } : Shaper).answerAll (front ++ .configure ⟨none, some true⟩ :: back))
      (({ config := ⟨true, true⟩ } : Shaper).answerAll (front ++ .configure ⟨none, none⟩ :: back)) := by
  refine ⟨by decide, by decide, answerAll_alike.1 true _ 3 (by decide) (by decide), ?_⟩
  apply answerAll_alike.2.1
  exact .cons (.same _) (.cons (.configure none _ _) (.cons (.same _) (.cons (.same _) .nil)))

end Shaper

end Interline
