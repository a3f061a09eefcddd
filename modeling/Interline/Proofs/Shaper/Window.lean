import Interline.Proofs.Shaper.Sound

/-!
# The window of a shaper

A push and a request for a blank line look at the last four tokens and at the three slots up to the
mark, and nowhere else. `Shaper.behind` puts tokens in front of a buffer, and moves every position with
them; on a shaper whose buffer holds all that is looked at (`Shaper.Window`) each operation then does
the same as before (`insertBlankLine_behind`, `push_behind`), and leaves such a shaper behind.
-/

namespace Interline
set_option autoImplicit false

theorem suffix_append_iff {run window : List Token} (fits : run.length ≤ window.length) (front : List Token) :
    run <:+ front ++ window ↔ run <:+ window := by
  constructor
  · intro suffix
    exact List.suffix_of_suffix_length_le suffix (List.suffix_append _ _) fits
  · intro suffix
    exact suffix.trans (List.suffix_append _ _)

/-- The fault of the same broken contract `n` slots further on. -/
def Fault.shift (n : Nat) : Fault → Fault
  | .staleMark index found => .staleMark (n + index) found
  | .bufferTooShort length required => .bufferTooShort length required
  | .alreadyTaken => .alreadyTaken
  | .outOfReach => .outOfReach

/-- The entry for the same event `n` slots further on. -/
def Event.shift (n : Nat) : Event → Event
  | .blankLineInserted index reason => .blankLineInserted (n + index) reason
  | .newlineSuppressed length => .newlineSuppressed (n + length)
  | .passFinished read written inserted => .passFinished read written inserted

namespace Shaper

/-- The shaper with more tokens in front of its buffer and more reasons before its own. -/
def behind (front : List Token) (rs : List Reason) (s : Shaper) : Shaper :=
  { s with
    buffer := front ++ s.buffer
    mark := front.length + s.mark
    reasons := rs ++ s.reasons
    log := s.log.map (Event.shift front.length) }

/-- The buffer holds the last four tokens and the three slots up to the mark. -/
structure Window (s : Shaper) : Prop where
  long : 4 ≤ s.buffer.length
  mark : 2 ≤ s.mark
  inside : s.mark < s.buffer.length

variable {s : Shaper} (front : List Token) (rs : List Reason)

@[simp] theorem behind_buffer : (s.behind front rs).buffer = front ++ s.buffer := rfl
@[simp] theorem behind_mark : (s.behind front rs).mark = front.length + s.mark := rfl
@[simp] theorem behind_config : (s.behind front rs).config = s.config := rfl
@[simp] theorem behind_taken : (s.behind front rs).taken = s.taken := rfl

theorem slot_behind {index : Int} (inside : 0 ≤ index) :
    (s.behind front rs).slot? (front.length + index) = s.slot? index := by
  have place : (front.length + index).toNat = front.length + index.toNat := by omega
  rw [slot?, slot?, if_pos (by omega), if_pos inside, place, behind_buffer, List.getElem?_append_right (by omega),
    Nat.add_sub_cancel_left]

/-! ## What a shaper looks at -/

theorem Window.staleMark_behind (h : s.Window) :
    (s.behind front rs).staleMark? = s.staleMark?.map (Fault.shift front.length) := by
  have mark := h.mark
  have nonzero : s.mark ≠ 0 := by omega
  have nonzero' : (front.length : Int) + s.mark ≠ 0 := by omega
  rw [staleMark?, staleMark?, behind_mark, slot_behind front rs (by omega), behind_config]
  simp only [nonzero, nonzero', ne_eq, not_false_eq_true, true_and]
  split <;> rfl

theorem Window.blankAtMark_behind (h : s.Window) : (s.behind front rs).blankAtMark = s.blankAtMark := by
  have mark := h.mark
  have one : (front.length : Int) + s.mark - 1 = front.length + (s.mark - 1) := by omega
  have two : (front.length : Int) + s.mark - 2 = front.length + (s.mark - 2) := by omega
  rw [blankAtMark, blankAtMark, behind_mark, one, two, slot_behind front rs (by omega),
    slot_behind front rs (by omega), slot_behind front rs (by omega)]

/-- A mark inside a buffer is in reach, on either side. -/
theorem Window.inReach (h : s.Window) : s.inReach = true :=
  inReach_of_inside (Int.le_trans (by decide) h.mark) (Int.le_of_lt h.inside)

theorem Window.inReach_behind (h : s.Window) : (s.behind front rs).inReach = true := by
  have mark := h.mark
  have inside := h.inside
  apply inReach_of_inside
  · rw [behind_mark]
    omega
  · rw [behind_mark, behind_buffer, List.length_append]
    omega

theorem Window.last_behind (h : s.Window) : (front ++ s.buffer).getLast? = s.buffer.getLast? := by
  have held : s.buffer ≠ [] := List.ne_nil_of_length_pos (Nat.lt_of_lt_of_le (by omega) h.long)
  exact List.getLast?_append_of_ne_nil _ held

theorem Window.due_behind (h : s.Window) (t : Token) : (s.behind front rs).due? t = s.due? t := by
  have long := h.long
  have longer : 4 ≤ front.length + s.buffer.length := by omega
  cases t with
  | comment contents =>
    have pair : [Token.endWord, .hardNewline].length ≤ s.buffer.length := Nat.le_trans (by decide) long
    simp only [due?, behind_buffer, suffix_append_iff pair, List.length_append, long, longer]
  | _ => rfl

/-! ## What a shaper changes -/

theorem Window.note_behind (h : s.Window) (t : Token) : (s.behind front rs).note t = (s.note t).behind front rs := by
  simp only [note, behind, h.last_behind]

theorem Window.addBlankLine_behind (h : s.Window) (r : Reason) :
    (s.behind front rs).addBlankLine r = (s.addBlankLine r).behind front rs := by
  have mark := h.mark
  have inside := h.inside
  have point : insertionPoint (front ++ s.buffer).length (front.length + s.mark) =
      front.length + insertionPoint s.buffer.length s.mark := by
    rw [insertionPoint, insertionPoint, if_pos (by omega), if_pos (by omega), List.length_append]
    omega
  rw [addBlankLine_eq, addBlankLine_eq]
  simp only [behind_buffer, behind_mark, point, List.take_length_add_append, List.drop_length_add_append]
  simp only [behind, List.append_assoc, Int.add_assoc, List.map_append]
  by_cases logged : s.config.logBlankLines = true <;> simp [logged, Event.shift]

theorem Window.write_behind (h : s.Window) (t : Token) : (s.behind front rs).write t = (s.write t).behind front rs := by
  cases t with
  | hardNewline =>
    have pair : [Token.hardNewline, .hardNewline].length ≤ s.buffer.length := Nat.le_trans (by decide) h.long
    simp only [write, endLine, behind_buffer, suffix_append_iff pair]
    split
    · simp only [behind, record, Event.shift, List.length_append, List.map_append, List.map_cons, List.map_nil]
      congr 1
      omega
    · simp [behind]
  | _ => simp [write, behind]

/-! ## The window stays -/

theorem Window.note (h : s.Window) (t : Token) : (s.note t).Window :=
  ⟨h.long, h.mark, h.inside⟩

theorem Window.addBlankLine (h : s.Window) (r : Reason) : (s.addBlankLine r).Window := by
  obtain ⟨long, mark, inside⟩ := h
  have longer : (s.addBlankLine r).buffer.length = s.buffer.length + 1 := s.length_addBlankLine r
  have moved : (s.addBlankLine r).mark = s.mark + 1 := rfl
  exact ⟨by omega, by omega, by omega⟩

theorem Window.write (h : s.Window) (t : Token) : (s.write t).Window := by
  obtain ⟨long, mark, inside⟩ := h
  by_cases newline : t = .hardNewline
  · subst newline
    show s.endLine.Window
    unfold endLine record
    split
    · refine ⟨long, ?_, ?_⟩ <;> dsimp only <;> omega
    · refine ⟨?_, ?_, ?_⟩ <;> simp only [List.length_append, List.length_singleton] <;> omega
  · rw [write_of_ne s newline]
    refine ⟨?_, mark, ?_⟩ <;> simp only [List.length_append, List.length_singleton] <;> omega

/-! ## Operations -/

/-- The outcome of the same operation on the shaper with more in front. -/
def outcomeBehind {α : Type} (front : List Token) (rs : List Reason) :
    EStateM.Result Fault Shaper α → EStateM.Result Fault Shaper α
  | .ok a s => .ok a (s.behind front rs)
  | .error fault s => .error (fault.shift front.length) (s.behind front rs)

/-- The operation leaves a window, whether it fails or not. -/
def LeavesWindow {α : Type} : EStateM.Result Fault Shaper α → Prop
  | .ok _ s | .error _ s => s.Window

theorem Window.requireMark (h : s.Window) : LeavesWindow (Shaper.requireMark s) := by
  rw [requireMark_eq]
  cases s.staleMark? <;> exact h

theorem Window.requireMark_behind (h : s.Window) :
    Shaper.requireMark (s.behind front rs) = outcomeBehind front rs (Shaper.requireMark s) := by
  rw [requireMark_eq, requireMark_eq, h.staleMark_behind]
  cases s.staleMark? <;> rfl

theorem Window.insertBlankLine (h : s.Window) (r : Reason) : LeavesWindow (Shaper.insertBlankLine r s) := by
  rw [insertBlankLine_eq, h.inReach]
  split
  · exact h
  · exact (h.addBlankLine r).requireMark

theorem Window.insertBlankLine_behind (h : s.Window) (r : Reason) :
    Shaper.insertBlankLine r (s.behind front rs) = outcomeBehind front rs (Shaper.insertBlankLine r s) := by
  rw [insertBlankLine_eq, insertBlankLine_eq, h.blankAtMark_behind, h.addBlankLine_behind,
    (h.addBlankLine r).requireMark_behind, h.inReach, h.inReach_behind front rs]
  split <;> rfl

theorem Window.insertDue (h : s.Window) (t : Token) : LeavesWindow (Shaper.insertDue t s) := by
  rw [Shaper.insertDue]
  cases s.due? t with
  | none => exact h
  | some r => exact h.insertBlankLine r

theorem Window.insertDue_behind (h : s.Window) (t : Token) :
    Shaper.insertDue t (s.behind front rs) = outcomeBehind front rs (Shaper.insertDue t s) := by
  rw [Shaper.insertDue, Shaper.insertDue, h.due_behind]
  cases s.due? t with
  | none => rfl
  | some r => exact h.insertBlankLine_behind front rs r

theorem Window.push (h : s.Window) (t : Token) : LeavesWindow (Shaper.push t s) := by
  rw [push_eq]
  split
  · exact h
  · cases s.staleMark? with
    | some fault => exact h
    | none =>
      have left := (h.note t).insertDue t
      cases due : Shaper.insertDue t (s.note t) with
      | error fault s' => rwa [due] at left
      | ok done s' =>
        rw [due] at left
        exact Window.requireMark (Window.write left t)

/-- **A push** of the same token does the same with more in front. -/
theorem Window.push_behind (h : s.Window) (t : Token) :
    Shaper.push t (s.behind front rs) = outcomeBehind front rs (Shaper.push t s) := by
  rw [push_eq, push_eq, h.staleMark_behind, h.note_behind, (h.note t).insertDue_behind, behind_taken]
  cases s.taken with
  | true => rfl
  | false =>
    simp only [Bool.false_eq_true, if_false]
    cases s.staleMark? with
    | some fault => rfl
    | none =>
      have left := (h.note t).insertDue t
      cases due : Shaper.insertDue t (s.note t) with
      | error fault s' => rfl
      | ok done s' =>
        rw [due] at left
        have window : s'.Window := left
        show Shaper.requireMark ((s'.behind front rs).write t) = outcomeBehind front rs (Shaper.requireMark (s'.write t))
        rw [window.write_behind, (window.write t).requireMark_behind]

end Shaper

end Interline
