/-!
# Quoted text

A text between single quotes, or between double quotes when it holds a single quote and no
double one. Inside, a backslash and the chosen quote follow a backslash; newline, carriage
return and tab have a letter each; any other character outside the printable set is written
by its code in lower-case hexadecimal with the fewest of 2, 4 or 8 digits. The printable set
is a parameter: which characters stand for themselves does not affect what can be read back.
-/

namespace Interline.Text
set_option autoImplicit false

/-- The lower-case digit of a number below sixteen. -/
def hexDigit (n : Nat) : Char :=
  if n < 10 then Char.ofNat (48 + n) else Char.ofNat (87 + n)

/-- The last `width` hexadecimal digits of `n`, high digit first. -/
def hexDigits : Nat → Nat → List Char
  | 0, _ => []
  | width + 1, n => hexDigits width (n / 16) ++ [hexDigit (n % 16)]

/-- A character written by its code. -/
def escapeCode (c : Char) : List Char :=
  let n := c.toNat
  if n < 0x100 then '\\' :: 'x' :: hexDigits 2 n
  else if n < 0x10000 then '\\' :: 'u' :: hexDigits 4 n
  else '\\' :: 'U' :: hexDigits 8 n

/-- One character between quotes `q`. -/
def quoteChar (printable : Char → Bool) (q c : Char) : List Char :=
  if c = '\\' ∨ c = q then ['\\', c]
  else if c = '\n' then ['\\', 'n']
  else if c = '\r' then ['\\', 'r']
  else if c = '\t' then ['\\', 't']
  else if printable c then [c]
  else escapeCode c

/-- The quote that needs fewer backslashes, single if in doubt. -/
def quoteMark (cs : List Char) : Char :=
  if '\'' ∈ cs ∧ '"' ∉ cs then '"' else '\''

def quoteChars (printable : Char → Bool) (cs : List Char) : List Char :=
  let q := quoteMark cs
  q :: cs.flatMap (quoteChar printable q) ++ [q]

def quote (printable : Char → Bool) (s : String) : String :=
  String.ofList (quoteChars printable s.toList)

example : quote (fun _ => true) "it's" = "\"it's\"" := by decide +kernel

example : quote (fun _ => false) "\u2028\t" = "'\\u2028\\t'" := by decide +kernel

end Interline.Text
