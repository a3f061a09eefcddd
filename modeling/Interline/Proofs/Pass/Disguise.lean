import Interline.Proofs.Pass.Run
import Interline.Proofs.Shaper.Disguise

/-!
# A pass over tokens in disguise

Where the blank lines go depends on the roles of the tokens and on the order of the depths, and on nothing
else: a pass over a stream in disguise returns the result for the plain stream in disguise.
-/

namespace Interline
set_option autoImplicit false

/-- **The layout depends on roles and relative depths only.** Tokens changed within their roles, with the
depths moved by an increasing function, come out of a pass as the plain tokens do, changed in the same way;
the reasons and the log are the same. -/
theorem shape_disguised (config : PassConfig) {f : Token → Token} {g : Int → Int} (disguise : Disguise f g)
    (ts : List Token) : ∃ (shaped : Shaped) (s s' : Shaper),
      shape config ts = .ok shaped s ∧
      shape config (ts.map f) = .ok { tokens := shaped.tokens.map f, reasons := shaped.reasons } s' ∧
      s'.log = s.log := by
  have start : Shaper.Disguised f g { config := config.shaper } { config := config.shaper } :=
    ⟨rfl, rfl, rfl, Line.disguised_empty g, .none, rfl, rfl⟩
  have pushed := start.advanceAll disguise ts
  have shaped := shape_eq_finish config (ts.map f)
  rw [pushed.buffer, pushed.reasons] at shaped
  refine ⟨_, _, _, shape_eq_finish config ts, shaped, ?_⟩
  simp only [Shaper.finish, pushed.log, pushed.buffer, pushed.reasons, List.length_map]

/-- Depths spread and moved below zero, `class` and `module` exchanged, and every word gone that has a like. -/
def Token.veiled : Token → Token
  | indent depth => indent (2 * depth - 7)
  | moduleWord => classWord
  | classWord => moduleWord
  | comment _ => comment ""
  | text fragment => if fragment = "require" then text "require" else space
  | conditional word => if word = "if" then conditional "if" else conditional "elsif"
  | defWord => comma
  | comma => defWord
  | t => t

theorem disguise_veiled : Disguise Token.veiled (2 * · - 7) where
  increasing d e less := by
    show 2 * d - 7 < 2 * e - 7
    omega
  role t := by
    cases t with
    | text fragment => by_cases word : fragment = "require" <;> simp [Token.veiled, Token.role, word, Role.move]
    | conditional word => by_cases fresh : word = "if" <;> simp [Token.veiled, Token.role, fresh, Role.move]
    | _ => rfl

/-- A stream that gains a blank line above its `class` and one below its `end`. -/
theorem shape_disguised_of_veiled :
    let ts : List Token := [.indent 0, .text "require", .text "a", .hardNewline, .indent 0, .classWord, .text "A",
      .hardNewline, .indent 1, .defWord, .hardNewline, .indent 0, .endWord, .hardNewline, .comment "b"]
    Disguise Token.veiled (2 * · - 7) ∧ ∃ (shaped : Shaped) (s s' : Shaper),
      shape {} ts = .ok shaped s ∧
      shape {} (ts.map Token.veiled) = .ok { tokens := shaped.tokens.map Token.veiled, reasons := shaped.reasons } s' ∧
      s'.log = s.log ∧ shaped.reasons = [.classOrModule, .commentAfterEnd] := by
  intro ts
  obtain ⟨shaped, s, s', plain, veiled, log⟩ := shape_disguised {} disguise_veiled ts
  refine ⟨disguise_veiled, shaped, s, s', plain, veiled, log, ?_⟩
  rw [shape_eq_finish] at plain
  cases plain
  decide

end Interline
