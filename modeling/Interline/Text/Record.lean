/-!
# Records as one-line text

`Label(field=value, field=value)`, the form in which diagnostics show a value.
-/

namespace Interline.Text
set_option autoImplicit false

def record (label : String) (fields : List (String × String)) : String :=
  label ++ "(" ++ ", ".intercalate (fields.map fun f => f.1 ++ "=" ++ f.2) ++ ")"

def flag (b : Bool) : String :=
  if b then "True" else "False"

/-- The text of a value that may be absent. -/
def orNone (text : Option String) : String :=
  text.getD "None"

end Interline.Text
