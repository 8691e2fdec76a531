import CallBridge.Json.Basic

/-!
# Errors of the bridge

Each error has a numeric code, which travels in error returns, a `message`, which travels with it,
and a `display` text. `ofCode` rebuilds an error from what travelled.
-/

namespace CallBridge

inductive BridgeError where
  | invalidState (expected actual : String)
  | config (text : String)
  | serialization (text : String)
  | malformed (raw : String)
  | unknownFunction (name : String)
  | handler (text : String)
  | invalidArguments (text : String)
  | remote (code : UInt32) (text : String)
  | channelClosed
  | timeout
  | internal (text : String)
deriving DecidableEq

namespace BridgeError

def display : BridgeError → String
  | .invalidState expected actual =>
      "invalid channel state: expected " ++ expected ++ ", got " ++ actual
  | .config text => "configuration error: " ++ text
  | .serialization text => "serialization error: " ++ text
  | .malformed raw => "Invalid message received: " ++ raw
  | .unknownFunction name => "unknown function: " ++ name
  | .handler text => "handler error: " ++ text
  | .invalidArguments text => "invalid arguments: " ++ text
  | .remote code text => "remote error " ++ toString code.toNat ++ ": " ++ text
  | .channelClosed => "channel closed"
  | .timeout => "call timed out"
  | .internal text => "internal error: " ++ text

def code : BridgeError → UInt32
  | .invalidState _ _ => 1
  | .config _ => 2
  | .serialization _ => 3
  | .malformed _ => 4
  | .unknownFunction _ => 5
  | .handler _ => 6
  | .invalidArguments _ => 7
  | .remote _ _ => 8
  | .channelClosed => 9
  | .timeout => 10
  | .internal _ => 11

/-- The text without the words that `display` puts in front. -/
def message : BridgeError → String
  | .invalidState _ actual => actual
  | .config text => text
  | .serialization text => text
  | .malformed raw => raw
  | .unknownFunction name => name
  | .handler text => text
  | .invalidArguments text => text
  | .remote _ text => text
  | .channelClosed => display .channelClosed
  | .timeout => display .timeout
  | .internal text => text

/-- The error with this code; codes that no error has are internal errors. -/
def ofCode (code : UInt32) (text : String) : BridgeError :=
  if code = 1 then .invalidState "" text
  else if code = 2 then .config text
  else if code = 3 then .serialization text
  else if code = 4 then .malformed text
  else if code = 5 then .unknownFunction text
  else if code = 6 then .handler text
  else if code = 7 then .invalidArguments text
  else if code = 8 then .remote code text
  else if code = 9 then .channelClosed
  else if code = 10 then .timeout
  else .internal text

/-- Inbound processing stops at this error. -/
def isFatal : BridgeError → Bool
  | .malformed _ => true
  | _ => false

end BridgeError

/-- Why a JSON document could not be written or read. -/
inductive DocumentError where
  | io (text : String)
  | content (text : String)

def DocumentError.text : DocumentError → String
  | .io text => text
  | .content text => text

def BridgeError.ofDocument (e : DocumentError) : BridgeError := .serialization e.text

/-- What a call ends with: the peer's value, or an error. -/
abbrev Outcome := Except BridgeError Json

/-- What an exposed function gives back: a value, nothing, or an error. -/
abbrev Reply := Except BridgeError (Option Json)

/-- What code that broke off left behind: a text, or something that is none. -/
inductive Panic where
  | text (s : String)
  | other
deriving DecidableEq

namespace Panic

def describe : Panic → String
  | .text s => "panicked: " ++ s
  | .other => "panicked with unknown payload"

def toError (p : Panic) : BridgeError := .handler p.describe

end Panic

end CallBridge
