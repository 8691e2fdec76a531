import CallBridge.Source.Expr
import CallBridge.Source.Type

/-!
# The whole grammar

Each piece is read with the grammar for pieces that are one level deeper.
-/

namespace CallBridge.Source

namespace Grammar

/-- The grammar for source that nests to at most a given depth. -/
def atDepth : Nat → Grammar
  | 0 => ⟨fun _ => throw "too deep", fun _ => throw "too deep", throw "too deep"⟩
  | depth + 1 =>
      let g := atDepth depth
      ⟨Parser.type g, Parser.expr g, Parser.pattern g⟩

/-- A piece is inside another one at most as often as there are tokens. -/
def forTokens (ts : List Token) : Grammar := atDepth (Token.sizeAll ts + 2)

end Grammar

end CallBridge.Source
