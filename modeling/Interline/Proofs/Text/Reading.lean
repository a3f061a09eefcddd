import Interline.Text.Quoted
import Interline.Text.Record
import Mathlib.Algebra.Group.Nat.Defs
import Mathlib.Data.List.Basic

/-!
# Reading text back

The other direction of `Text.quote` and `Text.record`. `unquote` undoes the escapes of a quoted text without
knowing which characters were printable (`unquote_quote`): every escape opens with a backslash, the letter after
it says how many digits follow, and a character that stands for itself is never a backslash. `recordParts` cuts a
record at its first bracket (`recordParts_record`).
-/

namespace Interline.Text
set_option autoImplicit false

/-! ## Codes -/

/-- The place of a digit among the sixteen. -/
def hexDigitValue (c : Char) : Nat :=
  ((List.range 16).map hexDigit).idxOf c

/-- The number that hexadecimal digits show, high digit first. -/
def hexValue (digits : List Char) : Nat :=
  digits.foldl (fun n c => 16 * n + hexDigitValue c) 0

theorem hexDigitValue_hexDigit : ∀ n < 16, hexDigitValue (hexDigit n) = n := by decide

theorem hexValue_snoc (digits : List Char) (c : Char) :
    hexValue (digits ++ [c]) = 16 * hexValue digits + hexDigitValue c := by
  simp [hexValue]

theorem length_hexDigits (width n : Nat) : (hexDigits width n).length = width := by
  induction width generalizing n with
  | zero => rfl
  | succ width ih => simp [hexDigits, ih]

theorem hexValue_hexDigits {width n : Nat} (fits : n < 16 ^ width) : hexValue (hexDigits width n) = n := by
  induction width generalizing n with
  | zero => simp_all [hexDigits, hexValue]
  | succ width ih =>
    have high : n / 16 < 16 ^ width := by
      rw [Nat.pow_succ] at fits
      omega
    rw [hexDigits, hexValue_snoc, ih high, hexDigitValue_hexDigit _ (Nat.mod_lt _ (by decide))]
    omega

/-! ## Quoted text -/

/-- The number of digits that follow a backslash and this letter. -/
def codeWidth? : Char → Option Nat
  | 'x' => some 2
  | 'u' => some 4
  | 'U' => some 8
  | _ => none

/-- What a backslash and this character stand for, where no code follows. -/
def meaning : Char → Char
  | 'n' => '\n'
  | 'r' => '\r'
  | 't' => '\t'
  | c => c

/-- What a text between quotes stands for. A backslash at the very end stands for itself. -/
def unescape : List Char → List Char
  | '\\' :: letter :: rest =>
    match codeWidth? letter with
    | some width => Char.ofNat (hexValue (rest.take width)) :: unescape (rest.drop width)
    | none => meaning letter :: unescape rest
  | c :: rest => c :: unescape rest
  | [] => []
termination_by cs => cs.length

/-- What a text stands for that has a quote at each end. -/
def unquote (text : List Char) : List Char :=
  unescape text.tail.dropLast

theorem unescape_plain {c : Char} (plain : c ≠ '\\') (rest : List Char) :
    unescape (c :: rest) = c :: unescape rest := by
  rw [unescape]
  intro _ _ escaped _
  exact plain escaped

theorem unescape_letter {letter : Char} (short : codeWidth? letter = none) (rest : List Char) :
    unescape ('\\' :: letter :: rest) = meaning letter :: unescape rest := by
  rw [unescape, short]

theorem unescape_code {letter : Char} {width : Nat} (long : codeWidth? letter = some width) {c : Char}
    (fits : c.toNat < 16 ^ width) (rest : List Char) :
    unescape ('\\' :: letter :: (hexDigits width c.toNat ++ rest)) = c :: unescape rest := by
  have digits : (hexDigits width c.toNat ++ rest).take width = hexDigits width c.toNat :=
    List.take_left' (length_hexDigits width c.toNat)
  have others : (hexDigits width c.toNat ++ rest).drop width = rest :=
    List.drop_left' (length_hexDigits width c.toNat)
  rw [unescape, long]
  simp only [digits, others]
  rw [hexValue_hexDigits fits, Char.ofNat_toNat]

theorem unescape_escapeCode (c : Char) (rest : List Char) :
    unescape (escapeCode c ++ rest) = c :: unescape rest := by
  have bound : c.toNat < 16 ^ 8 := Nat.lt_of_lt_of_le c.val.toNat_lt (by decide)
  simp only [escapeCode]
  split
  next small => exact unescape_code rfl small rest
  next =>
    split
    next medium => exact unescape_code rfl medium rest
    next => exact unescape_code rfl bound rest

/-- **One character** between quotes is read back, whatever follows it. -/
theorem unescape_quoteChar {printable : Char → Bool} {q : Char} (quote : q = '\'' ∨ q = '"') (c : Char)
    (rest : List Char) : unescape (quoteChar printable q c ++ rest) = c :: unescape rest := by
  unfold quoteChar
  split
  next special =>
    have short : codeWidth? c = none ∧ meaning c = c := by
      rcases special with rfl | rfl
      · decide
      · rcases quote with rfl | rfl <;> decide
    rw [List.cons_append, List.singleton_append, unescape_letter short.1, short.2]
  next plain =>
    obtain ⟨notBackslash, -⟩ := not_or.1 plain
    split
    next newline => exact newline ▸ unescape_letter rfl rest
    next =>
      split
      next carriageReturn => exact carriageReturn ▸ unescape_letter rfl rest
      next =>
        split
        next tab => exact tab ▸ unescape_letter rfl rest
        next =>
          split
          next => exact unescape_plain notBackslash rest
          next => exact unescape_escapeCode c rest

theorem unescape_flatMap {printable : Char → Bool} {q : Char} (quote : q = '\'' ∨ q = '"') (cs : List Char) :
    unescape (cs.flatMap (quoteChar printable q)) = cs := by
  induction cs with
  | nil => rw [List.flatMap_nil, unescape]
  | cons c cs ih => rw [List.flatMap_cons, unescape_quoteChar quote, ih]

theorem quoteMark_cases (cs : List Char) : quoteMark cs = '\'' ∨ quoteMark cs = '"' := by
  unfold quoteMark
  split
  · exact Or.inr rfl
  · exact Or.inl rfl

/-- **A quoted text** is read back. -/
theorem unquote_quote (printable : Char → Bool) (s : String) :
    String.ofList (unquote (quote printable s).toList) = s := by
  have body : unquote (quote printable s).toList =
      unescape (s.toList.flatMap (quoteChar printable (quoteMark s.toList))) := by
    rw [quote, String.toList_ofList, quoteChars, unquote, List.cons_append, List.tail_cons, List.dropLast_concat]
  rw [body, unescape_flatMap (quoteMark_cases _), String.ofList_toList]

/-! ## Records -/

/-- The text before the first `c`, and the text after it. -/
def cutAt (c : Char) (cs : List Char) : List Char × List Char :=
  (cs.takeWhile (· != c), (cs.dropWhile (· != c)).tail)

theorem cutAt_append {c : Char} {front : List Char} (first : c ∉ front) (back : List Char) :
    cutAt c (front ++ c :: back) = (front, back) := by
  have before : ∀ d ∈ front, (d != c) = true := by
    intro d member
    exact bne_iff_ne.2 (ne_of_mem_of_not_mem member first)
  rw [cutAt, List.takeWhile_append_of_pos before, List.dropWhile_append_of_pos before]
  simp

/-- The label of a record, and what stands between its brackets. -/
def recordParts (text : String) : String × List Char :=
  let (label, rest) := cutAt '(' text.toList
  (String.ofList label, rest.dropLast)

theorem recordParts_record {label : String} (plain : '(' ∉ label.toList) (fields : List (String × String)) :
    recordParts (record label fields) =
      (label, (", ".intercalate (fields.map fun f => f.1 ++ "=" ++ f.2)).toList) := by
  have text : (record label fields).toList =
      label.toList ++ '(' :: ((", ".intercalate (fields.map fun f => f.1 ++ "=" ++ f.2)).toList ++ [')']) := by
    simp [record]
  rw [recordParts, text, cutAt_append plain]
  simp

/-- A record with one field shows the name of the field and its value. -/
theorem cutAt_field {name : String} (plain : '=' ∉ name.toList) (value : String) :
    cutAt '=' (", ".intercalate ([(name, value)].map fun f => f.1 ++ "=" ++ f.2)).toList =
      (name.toList, value.toList) := by
  have text : (", ".intercalate ([(name, value)].map fun f => f.1 ++ "=" ++ f.2)).toList =
      name.toList ++ '=' :: value.toList := by
    simp
  rw [text, cutAt_append plain]

end Interline.Text
