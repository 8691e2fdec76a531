import CallBridge.Bridge.Proc
import CallBridge.Config.Basic

/-!
# One bridge

A bridge holds its configuration, its source of tokens, the exposed functions by name, the calls
that wait for their return, and its outbound side. Until a channel is given to it, outbound frames
are buffered.
-/

namespace CallBridge

/-- The outbound side: frames that wait for a channel, or the channel and how many frames it has
been offered. -/
inductive Outbound where
  | connecting (buffer : List String)
  | opened (channel : Channel) (offers : Nat)

def Outbound.state : Outbound → ChannelState
  | .connecting _ => .connecting
  | .opened _ _ => .opened

def Outbound.buffer : Outbound → List String
  | .connecting buffer => buffer
  | .opened _ _ => []

/-- How a pending call is completed: its outcome is put aside for whoever holds the call, or handed
to a callback. -/
inductive Completion (n : Nat) where
  | waiting
  | callback (c : Callback n)

structure Bridge (n : Nat) where
  config : Config
  tokens : TokenSource
  /-- Exposed functions in the order of their names. -/
  registry : List (String × Exposed n) := []
  /-- Calls without a return so far. -/
  pending : List (CallId × Completion n) := []
  /-- Outcomes put aside and not yet taken. -/
  arrived : List (CallId × Outcome) := []
  outbound : Outbound := .connecting []

namespace Bridge

variable {n : Nat}

def state (x : Bridge n) : ChannelState := x.outbound.state

def names (x : Bridge n) : List String := Keyed.keys x.registry

def exposed? (x : Bridge n) (name : String) : Option (Exposed n) := x.registry.lookup name

def isExposed (x : Bridge n) (name : String) : Bool := Keyed.contains name x.registry

def expose (x : Bridge n) (name : String) (f : Exposed n) : Bridge n :=
  { x with registry := Keyed.insert name f x.registry }

def pending? (x : Bridge n) (id : CallId) : Option (Completion n) := x.pending.lookup id

/-- Takes the entry of `id` out of the table. -/
def unlist (x : Bridge n) (id : CallId) : Bridge n :=
  { x with pending := x.pending.filter fun p => p.1 ≠ id }

/-- Enters `id` with its completion in place of any other. -/
def enlist (x : Bridge n) (id : CallId) (c : Completion n) : Bridge n :=
  { x with pending := (x.unlist id).pending ++ [(id, c)] }

def arrived? (x : Bridge n) (id : CallId) : Option Outcome := x.arrived.lookup id

def putAside (x : Bridge n) (id : CallId) (o : Outcome) : Bridge n :=
  { x with arrived := x.arrived ++ [(id, o)] }

def takeAside (x : Bridge n) (id : CallId) : Bridge n :=
  { x with arrived := x.arrived.filter fun p => p.1 ≠ id }

def status (x : Bridge n) : Status :=
  ⟨x.state, x.pending.length, x.outbound.buffer.length⟩

def describe (x : Bridge n) : String :=
  "Bridge \x7b state: " ++ x.state.title ++ ", exposed: " ++ Text.quotedList x.names
    ++ ", pending_calls: " ++ toString x.pending.length ++ " \x7d"

/-- A function that a bridge exposes, as text. -/
def describeExposed (name : String) : String :=
  "ExposedFunction \x7b name: " ++ Text.quoted name ++ ", .. \x7d"

/-- A function of the peer, as text. -/
def describeRemote (name : String) : String :=
  "RemoteFunction \x7b name: " ++ Text.quoted name ++ " \x7d"

end Bridge

end CallBridge
