import Std.Data.String.ToInt
import Mathlib.Data.Option.Basic
import Mathlib.Logic.Function.Basic
import Interline.Pass
import Interline.Proofs.Text.Reading

/-!
# Reports lose nothing

A report of a pass is a list of words, and `Report.read?` makes the tokens and the reasons of them again, without
knowing which characters the report took for printable (`read?_reportWith`). So two passes with the same report
have returned the same.
-/

namespace Interline
set_option autoImplicit false

namespace Token

/-- A token of each kind, with what `value` shows where the kind has a field. -/
def ofEachKind (value : List Char) : List Token :=
  let contents := String.ofList (Text.unquote value)
  let depth := (String.ofList value).toInt?.getD 0
  [hardNewline, indent depth, text contents, comment contents, moduleWord, classWord, doWord, defWord, endWord,
   conditional contents, comma, space, delimiter contents, keyword contents, softNewline]

/-- The token that a text describes. -/
def read? (description : String) : Option Token :=
  let (label, fields) := Text.recordParts description
  (ofEachKind (Text.cutAt '=' fields).2).find? (·.label == label)

/-- So the first bracket of a description is the one that follows the label. -/
theorem bracket_not_mem_label (t : Token) : '(' ∉ t.label.toList := by
  cases t <;> simp [label]

/-- **A description** is read back. -/
theorem read?_describeWith (printable : Char → Bool) (t : Token) : read? (t.describeWith printable) = some t := by
  rw [read?, describeWith, Text.recordParts_record t.bracket_not_mem_label]
  cases t with
  | indent depth =>
    have value : (String.ofList (toString depth).toList).toInt? = some depth := by
      rw [String.ofList_toList]
      exact Int.toInt?_repr depth
    simp only [fields]
    rw [Text.cutAt_field (by simp)]
    simp only [ofEachKind, value]
    simp [label]
  | text contents | comment contents | conditional contents | delimiter contents | keyword contents =>
    simp only [fields]
    rw [Text.cutAt_field (by simp)]
    simp [ofEachKind, label, Text.unquote_quote]
  -- Nothing stands between the brackets, and nothing of the empty value is looked at.
  | _ => rfl

end Token

theorem Reason.ofValue_value (r : Reason) : Reason.ofValue r.value = .ok r := by
  cases r <;> rfl

/-- The tokens and the reasons that a report shows. -/
def Report.read? (r : Report) : Option Shaped := do
  let tokens ← r.tokens.mapM Token.read?
  let reasons ← r.reasons.mapM fun word => (Reason.ofValue word).toOption
  return { tokens, reasons }

section Inverse

variable {α β : Type} {write : α → β} {read? : β → Option α}

theorem mapM_read (inverse : ∀ a, read? (write a) = some a) (as : List α) :
    (as.map write).mapM read? = some as := by
  have same : read? ∘ write = fun a => pure (id a) := funext inverse
  rw [List.mapM_map, same, List.mapM_pure, List.map_id]
  rfl

/-- What can be read back is written in one way only. -/
theorem injective_of_read (inverse : ∀ a, read? (write a) = some a) : Function.Injective write := by
  have same : read? ∘ write = some := funext inverse
  apply Function.Injective.of_comp (f := read?)
  rw [same]
  exact Option.some_injective α

end Inverse

/-- **A report** is read back, whichever characters are printable. -/
theorem read?_reportWith (printable : Char → Bool) (r : Shaped) : (r.reportWith printable).read? = some r := by
  have tokens := mapM_read (Token.read?_describeWith printable) r.tokens
  have reasons : (r.reasons.map Reason.value).mapM (fun word => (Reason.ofValue word).toOption) = some r.reasons :=
    mapM_read (fun reason => congrArg Except.toOption reason.ofValue_value) r.reasons
  rw [Report.read?, Shaped.reportWith, tokens, reasons]
  rfl

/-- **Reports lose nothing.** Whichever characters are printable, two results with the same report have the same
tokens and the same reasons, and two tokens have the same description exactly when they are the same. -/
theorem reportWith_eq_iff (printable : Char → Bool) :
    (∀ r r' : Shaped, r.reportWith printable = r'.reportWith printable ↔
      r.tokens = r'.tokens ∧ r.reasons = r'.reasons) ∧
    ∀ t t' : Token, t.describeWith printable = t'.describeWith printable ↔ t = t' := by
  constructor
  · rintro ⟨ts, reasons⟩ ⟨ts', reasons'⟩
    rw [(injective_of_read (read?_reportWith printable)).eq_iff, Shaped.mk.injEq]
  · intro t t'
    exact (injective_of_read (Token.read?_describeWith printable)).eq_iff

end Interline
