import Interline.Proofs.Line
import Interline.Proofs.Shaper.Operations
import Mathlib.Data.List.Induction

/-!
# The mark

`Shaper.MarkedAt front back`: the mark is the slot of the last hard newline in the buffer,
with `front` before it and `back` after it. Each update of a shaper moves the three parts in
a way that the lemmas below state, so that a run is followed by its parts and not by slots.
-/

namespace Interline
set_option autoImplicit false

/-- A hard newline after these tokens would end a blank line that has a newline above it. -/
def endsBlank (front : List Token) : Bool :=
  front.getLast? == some .hardNewline ||
    (front.dropLast.getLast? == some .hardNewline && front.getLast?.any Token.isIndent)

theorem not_suffix_concat (run front : List Token) {t : Token} (other : t ≠ .hardNewline) :
    ¬ run ++ [.hardNewline] <:+ front ++ [t] := by
  rintro ⟨before, split⟩
  rw [← List.append_assoc] at split
  have ends := (List.append_inj' split rfl).2
  exact other (by simpa using ends.symm)

/-- A token and a newline end the text exactly when nothing follows the last newline and the token
stands before it. -/
theorem pair_suffix_iff {front back : List Token} (t : Token) (last : .hardNewline ∉ back) :
    [t, .hardNewline] <:+ front ++ .hardNewline :: back ↔ back = [] ∧ front.getLast? = some t := by
  cases back using List.reverseRecOn with
  | nil =>
    rw [show [t, .hardNewline] = [t] ++ [.hardNewline] from rfl,
      List.suffix_append_inj_of_length_eq rfl, List.singleton_suffix_iff_getLast?_eq_some]
    simp
  | append_singleton back u =>
    have other : u ≠ .hardNewline := by
      rintro rfl
      simp at last
    rw [← List.cons_append, ← List.append_assoc]
    constructor
    · intro suffix
      exact absurd suffix (not_suffix_concat [t] _ other)
    · rintro ⟨empty, -⟩
      simp at empty

/-- No three newlines in a row reach past the last newline. -/
theorem triple_infix_iff {front back : List Token} (last : .hardNewline ∉ back) :
    [.hardNewline, .hardNewline, .hardNewline] <:+: front ++ .hardNewline :: back ↔
      [.hardNewline, .hardNewline, .hardNewline] <:+: front ++ [.hardNewline] := by
  induction back using List.reverseRecOn with
  | nil => rfl
  | append_singleton back t ih =>
    simp only [List.mem_append, List.mem_singleton, not_or] at last
    have split : front ++ Token.hardNewline :: (back ++ [t]) = (front ++ .hardNewline :: back) ++ [t] := by simp
    rw [← ih last.1, split, List.infix_concat_iff]
    constructor
    · rintro (suffix | inside)
      · exact absurd suffix (not_suffix_concat [.hardNewline, .hardNewline] _ (Ne.symm last.2))
      · exact inside
    · exact Or.inr

namespace Shaper

@[simp] theorem note_buffer (s : Shaper) (t : Token) : (s.note t).buffer = s.buffer := rfl
@[simp] theorem note_mark (s : Shaper) (t : Token) : (s.note t).mark = s.mark := rfl
@[simp] theorem note_reasons (s : Shaper) (t : Token) : (s.note t).reasons = s.reasons := rfl
@[simp] theorem note_taken (s : Shaper) (t : Token) : (s.note t).taken = s.taken := rfl
@[simp] theorem note_config (s : Shaper) (t : Token) : (s.note t).config = s.config := rfl

/-- A newline tells nothing about any line. -/
theorem note_newline (s : Shaper) : s.note .hardNewline = s := by
  simp [note, Line.read, Token.fact?, Token.isIndent]

/-- Of the line above a token tells only that it opens a block, by its depth. -/
theorem note_previous (s : Shaper) (t : Token) : (s.note t).previous = s.previous.map fun above =>
    { above with opensBlock := above.opensBlock || deepens above.depth t.depth? } := by
  have deeper (above : Line) : (t.isIndent && (s.note t).current.isDeeperThan above) = deepens above.depth t.depth? := by
    have read : (s.note t).current.depth = t.depth?.or s.current.depth := by
      show (s.current.read _ t).depth = _
      rw [Line.read_eq]
    rw [Line.isDeeperThan, read]
    cases t <;> simp [Token.isIndent, Token.depth?, deepens]
  show s.previous.map (fun above =>
    if t.isIndent && (s.note t).current.isDeeperThan above then above.learn .opensBlock else above) = _
  congr 1
  funext above
  rw [deeper]
  cases deepens above.depth t.depth? <;> simp [Line.learn]

@[simp] theorem note_previous_isSome (s : Shaper) (t : Token) :
    (s.note t).previous.isSome = s.previous.isSome := by
  simp [note]

/-- An announcement changes the log and nothing else. -/
theorem announce_eq (s : Shaper) (r : Reason) :
    s.announce r = { s with
      log := s.log ++ if s.config.logBlankLines then [.blankLineInserted s.mark r] else [] } := by
  unfold announce record
  split <;> simp

/-- All that a blank line changes, in one record. -/
theorem addBlankLine_eq (s : Shaper) (r : Reason) :
    s.addBlankLine r =
      { s with
        buffer := s.buffer.take (insertionPoint s.buffer.length s.mark) ++
          .hardNewline :: s.buffer.drop (insertionPoint s.buffer.length s.mark)
        mark := s.mark + 1
        reasons := s.reasons ++ [r]
        log := s.log ++ if s.config.logBlankLines then [.blankLineInserted s.mark r] else [] } := by
  rw [addBlankLine, announce_eq]

/-- A blank line changes the buffer, the mark, the reasons and the log, and nothing else. -/
theorem addBlankLine_frame (s : Shaper) (r : Reason) :
    (s.addBlankLine r).config = s.config ∧ (s.addBlankLine r).current = s.current ∧
      (s.addBlankLine r).previous = s.previous ∧ (s.addBlankLine r).taken = s.taken := by
  rw [addBlankLine_eq]
  exact ⟨rfl, rfl, rfl, rfl⟩

theorem length_addBlankLine (s : Shaper) (r : Reason) : (s.addBlankLine r).buffer.length = s.buffer.length + 1 := by
  rw [addBlankLine_eq]
  simp only [List.length_append, List.length_cons, List.length_take, List.length_drop]
  omega

@[simp] theorem addBlankLine_reasons (s : Shaper) (r : Reason) :
    (s.addBlankLine r).reasons = s.reasons ++ [r] := rfl

/-- All that the end of a line changes, in one record for each of the two ways. -/
theorem endLine_eq (s : Shaper) :
    s.endLine = if [.hardNewline, .hardNewline] <:+ s.buffer then
        { s with
          mark := s.buffer.length - 1
          current := {}
          previous := some s.current
          log := s.log ++ [.newlineSuppressed s.buffer.length] }
      else
        { s with
          buffer := s.buffer ++ [.hardNewline]
          mark := s.buffer.length
          current := {}
          previous := some s.current } :=
  rfl

theorem write_of_ne (s : Shaper) {t : Token} (other : t ≠ .hardNewline) :
    s.write t = { s with buffer := s.buffer ++ [t] } := by
  cases t <;> first | rfl | exact absurd rfl other

theorem slot_natCast (s : Shaper) (n : Nat) : s.slot? n = s.buffer[n]? := by
  simp [slot?]

theorem staleMark_eq_none_iff {s : Shaper} : s.staleMark? = none ↔
    (s.config.checkMark = true → s.mark ≠ 0 → s.slot? s.mark = some .hardNewline) := by
  rw [staleMark?, ite_eq_right_iff]
  simp

theorem staleMark_of_newline {s : Shaper} (newline : s.slot? s.mark = some .hardNewline) : s.staleMark? = none := by
  rw [staleMark_eq_none_iff]
  exact fun _ _ => newline

theorem insertionPoint_of_nonneg {length : Nat} {index : Int} (inside : 0 ≤ index) :
    insertionPoint length index = min index.toNat length :=
  if_pos inside

theorem inReach_iff {s : Shaper} (inside : 0 ≤ s.mark) :
    s.inReach = true ↔ s.mark < wordEnd ∨ s.mark ≤ s.buffer.length := by
  have negative : -wordEnd ≤ 0 := by decide
  simp only [inReach, decide_eq_true_eq]
  omega

/-- With the mark inside the buffer it is in reach. -/
theorem inReach_of_inside {s : Shaper} (inside : 0 ≤ s.mark) (bound : s.mark ≤ s.buffer.length) :
    s.inReach = true :=
  (inReach_iff inside).2 (Or.inr bound)

/-- The token at the mark cuts the buffer in two. -/
theorem split_of_slot {s : Shaper} {t : Token} (held : s.slot? s.mark = some t) :
    ∃ front back, s.buffer = front ++ t :: back ∧ s.mark = front.length := by
  unfold slot? at held
  split at held
  next inside =>
    obtain ⟨bound, rfl⟩ := List.getElem?_eq_some_iff.1 held
    refine ⟨s.buffer.take s.mark.toNat, s.buffer.drop (s.mark.toNat + 1), ?_, ?_⟩
    · rw [List.getElem_cons_drop, List.take_append_drop]
    · rw [List.length_take]
      omega
  next => cases held

/-- A mark that holds a token is in reach. -/
theorem inReach_of_slot {s : Shaper} {t : Token} (held : s.slot? s.mark = some t) : s.inReach = true := by
  obtain ⟨front, back, buffer, mark⟩ := split_of_slot held
  apply inReach_of_inside
  · omega
  · rw [mark, buffer, List.length_append]
    omega

/-- With the mark inside the buffer a blank line goes in at the mark. -/
theorem addBlankLine_buffer {s : Shaper} {front back : List Token} (buffer : s.buffer = front ++ back)
    (mark : s.mark = front.length) (r : Reason) : (s.addBlankLine r).buffer = front ++ .hardNewline :: back := by
  have point : insertionPoint s.buffer.length s.mark = front.length := by
    rw [insertionPoint_of_nonneg (by omega), mark, buffer, List.length_append]
    omega
  rw [addBlankLine_eq]
  simp only [point]
  rw [buffer, List.take_left, List.drop_left]

/-- The mark is the slot of the last hard newline; `front` stands before it, `back` after it. -/
structure MarkedAt (s : Shaper) (front back : List Token) : Prop where
  buffer : s.buffer = front ++ .hardNewline :: back
  mark : s.mark = front.length
  last : .hardNewline ∉ back

namespace MarkedAt

variable {s : Shaper} {front back : List Token}

theorem slot_mark (h : s.MarkedAt front back) : s.slot? s.mark = some .hardNewline := by
  simp [slot?, h.buffer, h.mark]

theorem slot_before (h : s.MarkedAt front back) (k : Nat) : s.slot? (s.mark - (k + 1)) = front.reverse[k]? := by
  unfold slot?
  split
  next inside =>
    have bound : k < front.length := by rw [h.mark] at inside; omega
    have index : (s.mark - (k + 1)).toNat = front.length - 1 - k := by rw [h.mark]; omega
    rw [index, h.buffer, List.getElem?_append_left (by omega), List.getElem?_reverse bound]
  next outside =>
    rw [h.mark] at outside
    rw [List.getElem?_eq_none (by rw [List.length_reverse]; omega)]

theorem staleMark_eq_none (h : s.MarkedAt front back) : s.staleMark? = none :=
  staleMark_of_newline h.slot_mark

theorem blankAtMark_eq (h : s.MarkedAt front back) : s.blankAtMark = endsBlank front := by
  have one : s.slot? (s.mark - 1) = front.getLast? := by
    rw [← List.head?_reverse, List.head?_eq_getElem?]
    exact h.slot_before 0
  have two : s.slot? (s.mark - 2) = front.dropLast.getLast? := by
    rw [← List.head?_reverse, List.head?_eq_getElem?, ← List.tail_reverse, List.getElem?_tail]
    exact h.slot_before 1
  rw [blankAtMark, endsBlank, h.slot_mark, one, two]
  rfl

theorem congr {s' : Shaper} (h : s.MarkedAt front back) (buffer : s'.buffer = s.buffer) (mark : s'.mark = s.mark) :
    s'.MarkedAt front back :=
  ⟨buffer.trans h.buffer, mark.trans h.mark, h.last⟩

/-- An inserted blank line goes in front of the mark. -/
theorem addBlankLine (h : s.MarkedAt front back) (r : Reason) :
    (s.addBlankLine r).MarkedAt (front ++ [.hardNewline]) back := by
  constructor
  · rw [addBlankLine_buffer h.buffer h.mark, List.append_assoc]
    rfl
  · change s.mark + 1 = _
    rw [h.mark]
    simp
  · exact h.last

theorem write (h : s.MarkedAt front back) {t : Token} (other : t ≠ .hardNewline) :
    (s.write t).MarkedAt front (back ++ [t]) := by
  rw [s.write_of_ne other]
  refine ⟨by simp [h.buffer], h.mark, ?_⟩
  simp [h.last, Ne.symm other]

/-- A newline below a blank line is dropped, and the mark stays. -/
theorem endLine_of_double (h : s.MarkedAt front []) (double : front.getLast? = some .hardNewline) :
    s.endLine.MarkedAt front [] := by
  have ends : [.hardNewline, .hardNewline] <:+ s.buffer := by
    rw [h.buffer]
    exact (pair_suffix_iff _ h.last).2 ⟨rfl, double⟩
  rw [endLine, if_pos ends]
  refine ⟨h.buffer, ?_, h.last⟩
  simp [record, h.buffer]

/-- Any other newline becomes the last one. -/
theorem endLine_of_single (h : s.MarkedAt front back) (single : back = [] → front.getLast? ≠ some .hardNewline) :
    s.endLine.MarkedAt (front ++ .hardNewline :: back) [] := by
  have ends : ¬ [.hardNewline, .hardNewline] <:+ s.buffer := by
    rw [h.buffer, pair_suffix_iff _ h.last]
    rintro ⟨empty, double⟩
    exact single empty double
  rw [endLine, if_neg ends, ← h.buffer]
  exact ⟨rfl, rfl, by simp⟩

end MarkedAt

end Shaper

end Interline
