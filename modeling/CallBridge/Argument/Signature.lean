import CallBridge.Argument.Basic
import CallBridge.Bridge.Proc

/-!
# Functions with typed parameters

A typed function takes one argument per parameter, in order. Missing arguments count as null, and
further ones are not looked at. The first argument that does not fit is reported, and then the
body does not run.
-/

namespace CallBridge

/-- A parameter type, given by how its values are read. -/
structure Param where
  Value : Type
  read : Json → Except Mismatch Value

def Param.of (α : Type) [Argument α] : Param := ⟨α, Argument.decode⟩

/-- One value for each parameter. -/
def Values : List Param → Type
  | [] => Unit
  | p :: rest => p.Value × Values rest

/-- Reads the arguments from position `index` on. -/
def readValues : (params : List Param) → List Json → Nat → Except BridgeError (Values params)
  | [], _, _ => .ok ()
  | p :: rest, args, index =>
      match Argument.readAt p.read args index with
      | .error e => .error e
      | .ok a =>
          match readValues rest args (index + 1) with
          | .error e => .error e
          | .ok values => .ok (a, values)

namespace Ending

/-- The end of a function without a result. -/
def nothing : Ending := .returned none

def value {α : Type} [Writable α] (a : α) : Ending := .ofReply (Argument.toReply a)

/-- The end of a function that may fail with something that has a text. -/
def result {α ε : Type} [Writable α] [ToString ε] (r : Except ε α) : Ending :=
  .ofReply (Argument.resultToReply r)

end Ending

structure Function where
  params : List Param
  body : Values params → Ending

namespace Function

/-- A function without parameters. -/
def nullary (e : Ending) : Function := ⟨[], fun _ => e⟩

def unary {α : Type} [Argument α] (f : α → Ending) : Function := ⟨[.of α], fun v => f v.1⟩

def binary {α β : Type} [Argument α] [Argument β] (f : α → β → Ending) : Function :=
  ⟨[.of α, .of β], fun v => f v.1 v.2.1⟩

/-- How a call of the function with these arguments ends. -/
def apply (f : Function) (args : List Json) : Ending :=
  match readValues f.params args 0 with
  | .ok values => f.body values
  | .error e => .failed e

def expose {n : Nat} (f : Function) : Exposed n := ⟨fun args => .done (f.apply args), []⟩

end Function

end CallBridge
