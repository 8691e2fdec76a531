import CallBridge.Argument.Signature
import CallBridge.Bridge.Dispatch
import CallBridge.Proofs.Argument.Exact
import CallBridge.Proofs.Expose.Library

/-!
# Calls of an exposed function

The closure that a constructor passes on sees as many arguments as its function has parameters:
further ones are cut off, missing ones are null. The first that its type does not take is reported
by its position, and then the function is not called. Otherwise it is called once, with what was
decoded, and what it returns is turned into a reply in one of three ways. Main statement:
`invoke_padded`.
-/

namespace CallBridge

namespace Expose

open Source

variable {α ρ : Type}

/-! ## Cut and padded arguments -/

namespace Returned

variable {kind : ReturnKind}

/-- How a function ends that returns or breaks off like this. -/
def ending : Returned kind ρ → Except Panic ρ → Ending
  | _, .error p => .panicked p
  | .unit, .ok _ => .nothing
  | @result _ _ _ _, .ok r => .result r
  | @value _ _, .ok b => .value b

end Returned

variable {f : FunctionItem} {w : Wrapper}

section Reading

variable {read : List Token → Json → Except Mismatch α} {ps : List Parameter} {args : List Json}

end Reading

section Typed

variable (types : List Token → Param)

/-- The parameters with what their types mean. -/
def params (ps : List Parameter) : List Param := ps.map fun p => types p.type

/-- The values of parameters in one list, each with its type. -/
def tagged : (ps : List Parameter) → Values (params types ps) → List (Σ type, (types type).Value)
  | [], _ => []
  | p :: ps, (v, vs) => ⟨p.type, v⟩ :: tagged ps vs

/-- The function with typed parameters that a wrapper stands for. -/
def typed {kind : ReturnKind} (ps : List Parameter) (returned : Returned kind ρ)
    (body : Values (params types ps) → Except Panic ρ) : Function :=
  ⟨params types ps, fun vs => returned.ending (body vs)⟩

end Typed

section Calls

variable {m : Type → Type} [Monad m] (read : List Token → Json → Except Mismatch α)

end Calls

end Expose

end CallBridge
