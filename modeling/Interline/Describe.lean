import Interline.Line
import Interline.Text.Quoted
import Interline.Text.Printable
import Interline.Text.Record

/-!
# Tokens and lines as one-line text

Diagnostics show a token or a line as a record. `describeWith` takes the characters that
stand for themselves in quoted text; `describe` takes those of `Text.isPrintable`.

Integers are written out in full, here and in the messages of faults and of log entries: a limit
that a host sets on the number of their digits is taken as lifted.
-/

namespace Interline
set_option autoImplicit false

namespace Token

def label : Token → String
  | hardNewline => "HardNewLine"
  | indent _ => "Indent"
  | text _ => "DirectPart"
  | comment _ => "Comment"
  | moduleWord => "ModuleKeyword"
  | classWord => "ClassKeyword"
  | doWord => "DoKeyword"
  | defWord => "DefKeyword"
  | endWord => "End"
  | conditional _ => "ConditionalKeyword"
  | comma => "Comma"
  | space => "Space"
  | delimiter _ => "Delim"
  | keyword _ => "Keyword"
  | softNewline => "SoftNewLine"

def fields (printable : Char → Bool) : Token → List (String × String)
  | indent depth => [("depth", toString depth)]
  | text fragment => [("part", Text.quote printable fragment)]
  | comment contents => [("contents", Text.quote printable contents)]
  | conditional word => [("contents", Text.quote printable word)]
  | delimiter contents => [("contents", Text.quote printable contents)]
  | keyword word => [("keyword", Text.quote printable word)]
  | _ => []

def describeWith (printable : Char → Bool) (t : Token) : String :=
  Text.record t.label (t.fields printable)

def describe (t : Token) : String :=
  t.describeWith Text.isPrintable

end Token

def Line.describe (l : Line) : String :=
  Text.record "LineMetadata"
    [("has_require", Text.flag l.hasRequire), ("has_end", Text.flag l.hasEnd),
     ("has_def", Text.flag l.hasDef), ("has_conditional", Text.flag l.hasConditional),
     ("has_do_keyword", Text.flag l.hasDo), ("indent_level", Text.orNone (l.depth.map toString)),
     ("gets_indented", Text.flag l.opensBlock)]

end Interline
