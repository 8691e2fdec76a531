import CallBridge.Duration
import CallBridge.Error
import CallBridge.Json.Printer
import CallBridge.Level

/-!
# Configuration of a bridge
-/

namespace CallBridge

/-- What happens when an exposed function fails: the caller gets an error return, or nothing. -/
inductive DispatchPolicy where
  | returnError
  | drop
deriving DecidableEq

def DispatchPolicy.name : DispatchPolicy → String
  | .returnError => "return_error"
  | .drop => "drop"

structure Config where
  /-- Functions that the peer is known to expose. -/
  remoteFunctions : List String := []
  /-- How long an awaited call may take, in milliseconds. -/
  timeoutMs : Option UInt64 := none
  dispatchErrors : DispatchPolicy := .returnError
  logLevel : String := "info"
  prettyJson : Bool := false
deriving DecidableEq

namespace Config

def withTimeout (c : Config) (d : Duration) : Config :=
  { c with timeoutMs := some d.toMillisCapped }

def timeout (c : Config) : Option Duration := c.timeoutMs.map Duration.ofMillis

def level (c : Config) : Except BridgeError Level :=
  match Level.parse? c.logLevel with
  | some l => .ok l
  | none => .error (.config ("unknown log level: " ++ c.logLevel))

/-- The layout of the frames that the bridge writes. -/
def layout (c : Config) : Json.Layout := if c.prettyJson then .pretty else .compact

def timeoutJson (ms : UInt64) : Json := .number (.int (.ofUInt64 ms))

def toJson (c : Config) : Json :=
  .object [
    ("remote_functions", .array (c.remoteFunctions.map .string)),
    ("call_timeout_ms", (c.timeoutMs.map timeoutJson).getD .null),
    ("dispatch_errors", .string c.dispatchErrors.name),
    ("log_level", .string c.logLevel),
    ("pretty_json", .bool c.prettyJson)]

end Config

end CallBridge
