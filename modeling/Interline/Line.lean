import Interline.Token

/-!
# Facts about a line

What the blank-line rules remember of a line. All but `opensBlock` is learned from the
line's own tokens as they arrive (`Line.read`); `opensBlock` is learned from the indents of
the line after it. `Line.ofTokens` gives the same facts of a whole line at once.
-/

namespace Interline
set_option autoImplicit false

structure Line where
  /-- Has a fragment `require` right after an indent. -/
  hasRequire : Bool := false
  hasEnd : Bool := false
  hasDef : Bool := false
  hasConditional : Bool := false
  hasDo : Bool := false
  /-- The depth of the last indent, if there is any. -/
  depth : Option Int := none
  /-- The next line sits deeper. -/
  opensBlock : Bool := false
  deriving DecidableEq, Repr

/-- One thing to learn about a line. -/
inductive Fact where
  | require
  | endWord
  | definition
  | conditional
  | doWord
  | depth (depth : Int)
  | opensBlock
  deriving DecidableEq, Repr

/-- The fact a token tells about its own line. A fragment `require` counts only right
after an indent: anywhere else it is part of an expression. -/
def Token.fact? (afterIndent : Bool) : Token → Option Fact
  | endWord => some .endWord
  | defWord => some .definition
  | doWord => some .doWord
  | conditional _ => some .conditional
  | indent depth => some (.depth depth)
  | text fragment => if afterIndent ∧ fragment = "require" then some .require else none
  | _ => none

/-- The second depth is the greater one, where a missing depth comes before every other. -/
def deepens : Option Int → Option Int → Bool
  | _, none => false
  | none, some _ => true
  | some d, some e => decide (d < e)

theorem deepens_iff {d e : Option Int} : deepens d e = true ↔ d < e := by
  cases d <;> cases e <;> simp [deepens]

namespace Line

/-- A later depth replaces an earlier one; any other fact stays. -/
def learn (l : Line) : Fact → Line
  | .require => { l with hasRequire := true }
  | .endWord => { l with hasEnd := true }
  | .definition => { l with hasDef := true }
  | .conditional => { l with hasConditional := true }
  | .doWord => { l with hasDo := true }
  | .depth depth => { l with depth := some depth }
  | .opensBlock => { l with opensBlock := true }

/-- The line with one more token. -/
def read (l : Line) (afterIndent : Bool) (t : Token) : Line :=
  match t.fact? afterIndent with
  | some f => l.learn f
  | none => l

/-- The line ended a conditional or a `do` block. -/
def closesBlock (l : Line) : Bool :=
  l.hasEnd && (l.hasConditional || l.hasDo)

/-- A line without a depth is above every line that has one, and below none. -/
def isDeeperThan (l above : Line) : Bool :=
  deepens above.depth l.depth

/-- The facts of a line with the tokens `ts`, before any line follows it. -/
def ofTokens (ts : List Token) : Line where
  hasRequire := (ts.zip ts.tail).any fun p => p.1.isIndent && p.2 == .text "require"
  hasEnd := ts.contains .endWord
  hasDef := ts.contains .defWord
  hasConditional := ts.any Token.isConditional
  hasDo := ts.contains .doWord
  depth := ts.reverse.findSome? Token.depth?

end Line

end Interline
