import CallBridge.Argument.Basic
import CallBridge.Expose.Wrapper

/-!
# What the constructor of an exposed function does

The tokens of a constructor are read as the code that they are. It makes an exposed function of a
name and a closure. The closure decodes arguments into locals, calls a function with locals by name
and turns what that returns into a reply; an argument that does not fit ends it early. Code of any
other form means nothing here, and neither does a call whose function is hidden by a local or by
the parameter of the closure.
-/

namespace CallBridge.Expose

open Source

/-- The code of a closure. -/
structure Closure where
  /-- The locals in the order in which they are declared. -/
  locals : List Local
  function : Ident
  /-- The names that the function is called with. -/
  passed : List String
  returns : ReturnKind
deriving DecidableEq

/-- The closure that a wrapper asks for. -/
def Wrapper.code (w : Wrapper) : Closure :=
  ⟨w.locals, w.function, w.locals.map Local.name, w.returns⟩

/-- The tokens that `function` is applied to, if they are all that follows it. -/
def applied? (function ts : List Token) : Option (List Token) :=
  match ts.getLast? with
  | some (.group .paren inner) => if ts.dropLast = function then some inner else none
  | _ => none

/-- Names with commas between them. -/
def names? : List Token → Option (List String)
  | [] => some []
  | [.ident i] => some [i.name]
  | .ident i :: .mark ',' _ :: rest => (names? rest).map (i.name :: ·)
  | _ => none

/-- The call of a function with names. -/
def call? : List Token → Option (Ident × List String)
  | [.ident f, .group .paren inner] => (names? inner).map (f, ·)
  | _ => none

namespace Closure

/-- The declarations of a closure, the call after them and what becomes of its result, given the
statements of the closure in reverse. The value of the last one is what the closure returns. -/
def ending? (library : List Token) :
    List (List Token) → Option (List (List Token) × List Token × ReturnKind)
  | [] => none
  | last :: before =>
      if applied? Wrapper.success last = some Wrapper.nothing then
        before.head?.map fun call => (before.tail.reverse, call, .unit)
      else
        match applied? (library ++ Wrapper.absolute ["result_to_return"]) last with
        | some call => some (before.reverse, call, .result)
        | none =>
            (applied? (library ++ Wrapper.absolute ["to_return"]) last).map fun call =>
              (before.reverse, call, .value)

end Closure

section Run

variable {ε α ρ : Type}

/-- What is in scope after the locals are declared in order, where `arg` decodes the argument at a
position as a type: a later local hides an earlier one of its name. The first failure ends it. -/
def declare (arg : List Token → Nat → Except ε α) (ls : List Local) :
    Except ε (List (String × α)) :=
  ls.foldlM (fun scope l => do
    let v ← arg l.type l.index
    return (l.name, v) :: scope) []

/-- The arguments that a closure calls its function with: what the names that it passes stand for
once all locals are declared. -/
def Closure.arguments (c : Closure) (arg : List Token → Nat → Except ε α) :
    Except ε (List (Option α)) := do
  let scope ← declare arg c.locals
  return c.passed.map fun name => scope.lookup name

/-- What a function of a kind can return: nothing, a value or an error that has a text, or a
value. -/
inductive Returned : ReturnKind → Type → Type 1
  | unit : Returned .unit Unit
  | result {β ε : Type} [Writable β] [ToString ε] : Returned .result (Except ε β)
  | value {β : Type} [Writable β] : Returned .value β

/-- The reply to a call of the function, which may also break off. -/
def Returned.reply {kind : ReturnKind} : Returned kind ρ → Except Panic ρ → Reply
  | _, .error p => .error p.toError
  | .unit, .ok _ => .ok none
  | @result _ _ _ _, .ok r => Argument.resultToReply r
  | @value _ _, .ok b => Argument.toReply b

end Run

end CallBridge.Expose
