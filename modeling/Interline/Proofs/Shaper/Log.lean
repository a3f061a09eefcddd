import Interline.Proofs.Shaper.Settings
import Interline.Proofs.Shaper.Settled

/-!
# What a log says of the buffer

An entry is made while the buffer still grows, and what it says stays true: the two newlines that it is
about are settled when it is made, or are settled by what it reports. `Shaper.Logged` says so of every
entry of a log, with the order of the entries and what they count; a push keeps it (`Logged.advance`), and
so does a run of pushes.
-/

namespace Interline
set_option autoImplicit false

namespace Event

/-- The slot and the reason of a blank line that went in. -/
def insertion? : Event → Option (Nat × Reason)
  | blankLineInserted index reason => some (index.toNat, reason)
  | _ => none

/-- How many tokens stood before a newline that was dropped. -/
def droppedAt? : Event → Option Nat
  | newlineSuppressed length => some length
  | _ => none

/-- What an entry says is true of the tokens: two newlines start at the slot where a blank line went in, with
none above them, and two newlines end where a newline was dropped. No entry says that the pass is over. -/
def HoldsOf (ts : List Token) : Event → Prop
  | blankLineInserted index _ => ∃ front : List Token,
      index = front.length ∧ front.getLast? ≠ some .hardNewline ∧ front ++ [.hardNewline, .hardNewline] <+: ts
  | newlineSuppressed length => ∃ front : List Token,
      length = front.length + 2 ∧ front ++ [.hardNewline, .hardNewline] <+: ts
  | passFinished .. => False

/-- Of two entries for blank lines the second is about a later slot, and of two for dropped newlines the
second is not about an earlier one. -/
def Precedes : Event → Event → Prop
  | blankLineInserted index _, blankLineInserted index' _ => index < index'
  | newlineSuppressed length, newlineSuppressed length' => length ≤ length'
  | _, _ => True

variable {e : Event} {ts ts' : List Token}

/-- More tokens below change nothing. -/
theorem HoldsOf.mono (h : e.HoldsOf ts) (part : ts <+: ts') : e.HoldsOf ts' := by
  cases e with
  | blankLineInserted index reason =>
    obtain ⟨front, slot, single, double⟩ := h
    exact ⟨front, slot, single, double.trans part⟩
  | newlineSuppressed length =>
    obtain ⟨front, place, double⟩ := h
    exact ⟨front, place, double.trans part⟩
  | passFinished read written inserted => exact h

/-- An entry about settled tokens comes before one for a blank line at the last of them. -/
theorem HoldsOf.precedes_insertion (h : e.HoldsOf ts) {index : Int} (last : ts.length ≤ index + 1) (r : Reason) :
    e.Precedes (.blankLineInserted index r) := by
  cases e with
  | blankLineInserted index' reason =>
    obtain ⟨front, slot, -, double⟩ := h
    have fits := double.length_le
    simp only [List.length_append, List.length_cons, List.length_nil] at fits
    show index' < index
    omega
  | _ => trivial

theorem HoldsOf.precedes_suppression (h : e.HoldsOf ts) {length : Nat} (last : ts.length ≤ length) :
    e.Precedes (.newlineSuppressed length) := by
  cases e with
  | newlineSuppressed length' =>
    obtain ⟨front, place, double⟩ := h
    have fits := double.length_le
    simp only [List.length_append, List.length_cons, List.length_nil] at fits
    show length' ≤ length
    omega
  | _ => trivial

end Event

/-- One token more settles no less. -/
theorem settled_concat (buffer : List Token) (t : Token) : settled buffer <+: settled (buffer ++ [t]) := by
  by_cases newline : t = .hardNewline
  · subst newline
    rw [settled_append (by simp) buffer]
    exact (settled_prefix_buffer buffer).trans (List.prefix_append _ _)
  · unfold settled
    rw [List.rdropWhile_concat_pos _ _ _ (by simp [newline])]

namespace Shaper

/-- The log of a shaper that has read so many tokens: each entry is true of the tokens that are settled, the
entries are in order, there is one for each reason, and the buffer is as long as they say. -/
structure Logged (s : Shaper) (read : Nat) : Prop where
  holds : ∀ e ∈ s.log, e.HoldsOf (settled s.buffer)
  ordered : s.log.Pairwise Event.Precedes
  reasons : (s.log.filterMap Event.insertion?).map Prod.snd = s.reasons
  length : s.buffer.length + (s.log.filterMap Event.droppedAt?).length = read + s.reasons.length

variable {s : Shaper} {read : Nat} {front back : List Token}

theorem logged_fresh (config : ShaperConfig) : ({ config } : Shaper).Logged 0 :=
  ⟨by simp, .nil, rfl, rfl⟩

theorem Logged.note (h : s.Logged read) (t : Token) : (s.note t).Logged read :=
  ⟨h.holds, h.ordered, h.reasons, h.length⟩

/-- One entry more, about what is settled by then. -/
theorem Logged.entry (h : s.Logged read) {ts : List Token} (part : settled s.buffer <+: ts) {e : Event}
    (new : e.HoldsOf ts) (last : ∀ old : Event, old.HoldsOf (settled s.buffer) → old.Precedes e) :
    (∀ e' ∈ s.log ++ [e], e'.HoldsOf ts) ∧ (s.log ++ [e]).Pairwise Event.Precedes := by
  constructor
  · intro e' member
    rcases List.mem_append.1 member with old | same
    · exact (h.holds e' old).mono part
    · rw [List.mem_singleton.1 same]
      exact new
  · rw [List.pairwise_append]
    refine ⟨h.ordered, List.pairwise_singleton _ _, ?_⟩
    intro e' old e'' same
    rw [List.mem_singleton.1 same]
    exact last e' (h.holds e' old)

/-- A blank line that is missing goes in below what is settled, and is settled itself. -/
theorem Logged.addBlankLine (h : s.Logged read) (logs : s.config.logBlankLines = true) (marked : s.MarkedAt front back)
    (missing : s.blankAtMark = false) (r : Reason) : (s.addBlankLine r).Logged read := by
  have added := marked.addBlankLine r
  have log : (s.addBlankLine r).log = s.log ++ [.blankLineInserted s.mark r] := by
    rw [addBlankLine_eq, logs, if_pos rfl]
  have new : (Event.blankLineInserted s.mark r).HoldsOf (settled (s.addBlankLine r).buffer) := by
    rw [marked.blankAtMark_eq] at missing
    refine ⟨front, marked.mark, not_newline_of_not_endsBlank missing, ?_⟩
    rw [added.settled_eq]
    simp
  have last (old : Event) (held : old.HoldsOf (settled s.buffer)) : old.Precedes (.blankLineInserted s.mark r) := by
    apply held.precedes_insertion
    rw [marked.settled_eq, marked.mark]
    simp
  obtain ⟨holds, ordered⟩ := h.entry (marked.settled_below added) new last
  refine ⟨log ▸ holds, log ▸ ordered, ?_, ?_⟩
  · rw [log, List.filterMap_append, List.map_append, h.reasons]
    rfl
  · have none : [Event.blankLineInserted s.mark r].filterMap Event.droppedAt? = [] := rfl
    have length := h.length
    rw [log, List.filterMap_append, none, List.append_nil, length_addBlankLine, addBlankLine_reasons, List.length_append,
      List.length_singleton]
    omega

theorem Logged.makeRoom (h : s.Logged read) (logs : s.config.logBlankLines = true) (sound : s.Sound) (t : Token) :
    (s.makeRoom t).Logged read := by
  -- Before the first newline a sound shaper has no line above, and no token asks for a blank line.
  rcases sound.mark with unmarked | ⟨front, back, marked⟩
  · rw [unmarked.makeRoom_eq]
    exact h
  · rcases s.makeRoom_cases t with same | ⟨r, -, missing, added⟩
    · rw [same]
      exact h
    · rw [added]
      exact h.addBlankLine logs marked.toMarkedAt missing r

/-- A token that is written is counted, and makes no entry. -/
theorem Logged.append (h : s.Logged read) {s' : Shaper} {t : Token} (buffer : s'.buffer = s.buffer ++ [t])
    (log : s'.log = s.log) (reasons : s'.reasons = s.reasons) : s'.Logged (read + 1) := by
  have part : settled s.buffer <+: settled s'.buffer := buffer ▸ settled_concat s.buffer t
  refine ⟨?_, log ▸ h.ordered, ?_, ?_⟩
  · intro e member
    rw [log] at member
    exact (h.holds e member).mono part
  · rw [log, reasons]
    exact h.reasons
  · have length := h.length
    rw [log, reasons, buffer, List.length_append, List.length_singleton]
    omega

/-- A newline that is dropped is counted by its entry. -/
theorem Logged.drop (h : s.Logged read) {s' : Shaper} (double : [.hardNewline, .hardNewline] <:+ s.buffer)
    (buffer : s'.buffer = s.buffer) (log : s'.log = s.log ++ [.newlineSuppressed s.buffer.length])
    (reasons : s'.reasons = s.reasons) : s'.Logged (read + 1) := by
  obtain ⟨front, split⟩ := double
  -- The buffer ends in a newline, so all of it is settled.
  have whole : settled s.buffer = s.buffer := by
    rw [← split, show front ++ [Token.hardNewline, .hardNewline] = (front ++ [.hardNewline]) ++ .hardNewline :: [] by simp,
      settled_append (by simp)]
  have new : (Event.newlineSuppressed s.buffer.length).HoldsOf (settled s.buffer) := by
    refine ⟨front, ?_, ?_⟩
    · rw [← split]
      simp
    · rw [whole, split]
  have last (old : Event) (held : old.HoldsOf (settled s.buffer)) :
      old.Precedes (.newlineSuppressed s.buffer.length) :=
    held.precedes_suppression (settled_prefix_buffer s.buffer).length_le
  obtain ⟨holds, ordered⟩ := h.entry List.prefix_rfl new last
  refine ⟨?_, log ▸ ordered, ?_, ?_⟩
  · rw [log, buffer]
    exact holds
  · rw [log, reasons, List.filterMap_append, ← h.reasons]
    exact congrArg (List.map Prod.snd) (List.append_nil _)
  · have length := h.length
    have one : [Event.newlineSuppressed s.buffer.length].filterMap Event.droppedAt? = [s.buffer.length] := rfl
    rw [log, reasons, buffer, List.filterMap_append, one, List.length_append, List.length_singleton]
    omega

theorem Logged.write (h : s.Logged read) (t : Token) : (s.write t).Logged (read + 1) := by
  by_cases newline : t = .hardNewline
  · subst newline
    show s.endLine.Logged (read + 1)
    rw [endLine_eq]
    split
    next double => exact h.drop double rfl rfl rfl
    next => exact h.append rfl rfl rfl
  · rw [write_of_ne s newline]
    exact h.append rfl rfl rfl

/-- **A push** keeps the log true. -/
theorem Logged.advance (h : s.Logged read) (logs : s.config.logBlankLines = true) (sound : s.Sound) (t : Token) :
    (s.advance t).Logged (read + 1) :=
  ((h.note t).makeRoom logs (sound.note t) t).write t

/-- **A run of pushes** keeps the log true. -/
theorem Logged.advanceAll (h : s.Logged read) (logs : s.config.logBlankLines = true) (sound : s.Sound) (ts : List Token) :
    (s.advanceAll ts).Logged (read + ts.length) := by
  induction ts generalizing s read with
  | nil => exact h
  | cons t ts ih =>
    have rest := ih (h.advance logs sound t) (by rwa [advance_config]) (sound.push t).2
    rwa [Nat.add_assoc, Nat.add_comm 1] at rest

end Shaper

end Interline
