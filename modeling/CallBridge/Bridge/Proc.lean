import CallBridge.Bridge.State
import CallBridge.Message.Codec

/-!
# Host code as trees of requests

Exposed functions and callbacks are code of the host, and may reach back into any of its bridges
while they run. Such code is a tree: it ends, or it asks something of a bridge and goes on in a way
that depends on the answer. Bridges are numbered; `n` is how many there are.

A call made by host code is bound at once to a callback, or its result is let go at once.
-/

namespace CallBridge

/-- How a piece of host code ends. -/
inductive Ending where
  | returned (value : Option Json)
  | failed (e : BridgeError)
  | panicked (p : Panic)

def Ending.ofReply : Reply → Ending
  | .ok value => .returned value
  | .error e => .failed e

/-- Where an open bridge sends its frames: to a tape that keeps them in sight, into a line that
someone reads from, or nowhere. -/
inductive Carrier where
  | tape
  | line (index : Nat)
  | void
deriving DecidableEq

/-- A channel accepts or refuses each frame that it is offered; `verdict k` is the refusal of
offer number `k`, if it is refused. -/
structure Channel where
  carrier : Carrier
  verdict : Nat → Option BridgeError := fun _ => none

/-- The state of a bridge as code can ask for it. -/
structure Status where
  state : ChannelState
  pending : Nat
  buffered : Nat
deriving DecidableEq

/-- Host code. Functions and callbacks that it hands over come with the bridges they hold on
to. -/
inductive Proc (n : Nat) where
  | done (e : Ending)
  | note (label : String) (what : Outcome) (next : Proc n)
  | call (b : Fin n) (name : String) (args : List Json) (callback : Outcome → Proc n)
      (holds : List (Fin n)) (next : Except BridgeError CallId → Proc n)
  | callAndForget (b : Fin n) (name : String) (args : List Json)
      (next : Except BridgeError CallId → Proc n)
  | expose (b : Fin n) (name : String) (body : List Json → Proc n) (holds : List (Fin n))
      (next : Proc n)
  | openWith (b : Fin n) (channel : Channel) (next : Except BridgeError Unit → Proc n)
  | handle (b : Fin n) (frame : String) (next : Except BridgeError Unit → Proc n)
  | names (b : Fin n) (next : List String → Proc n)
  | status (b : Fin n) (next : Status → Proc n)

variable {n : Nat}

namespace Proc

def panic (p : Panic) : Proc n := .done (.panicked p)

/-- Goes on with a result, or fails with its error. -/
def orFail {α : Type} (next : α → Proc n) : Except BridgeError α → Proc n
  | .ok a => next a
  | .error e => .done (.failed e)

end Proc

/-- A function that the peer can call. -/
structure Exposed (n : Nat) where
  body : List Json → Proc n
  holds : List (Fin n) := []

/-- What runs with the outcome of a call. -/
structure Callback (n : Nat) where
  body : Outcome → Proc n
  holds : List (Fin n) := []

end CallBridge
