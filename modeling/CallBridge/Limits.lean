import CallBridge.Error

/-!
# Limits

Code that runs for a frame may handle further frames, a sink may log while it receives a record, and
a line may be filled as fast as it is emptied. The bridge itself bounds none of these, so a host, a
session and a log manager take the bounds as a parameter.
-/

namespace CallBridge

class Limits where
  /-- How many frames may be handled inside of the one that comes from outside. -/
  nesting : Nat
  /-- What code is told of a frame below the last level. -/
  refusal : BridgeError
  /-- How many frames of a line one step handles. -/
  frames : Nat
  /-- How many records sinks may log inside of the one that comes from outside. -/
  records : Nat

instance (priority := low) Limits.standard : Limits where
  nesting := 1024
  refusal := .internal "handlers are nested too deep"
  frames := 1048576
  records := 1024

end CallBridge
