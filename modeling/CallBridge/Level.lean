import CallBridge.Text.Blank

/-!
# Log levels

Levels are ordered from `trace` to `off`. A record's level is never `off` in practice; as a
threshold `off` lets nothing pass.
-/

namespace CallBridge

inductive Level where
  | trace
  | debug
  | info
  | warn
  | error
  | off
deriving DecidableEq

namespace Level

def rank : Level → Nat
  | .trace => 0
  | .debug => 1
  | .info => 2
  | .warn => 3
  | .error => 4
  | .off => 5

/-- The level of a rank; every rank above the last is `off`. -/
def ofRank : Nat → Level
  | 0 => .trace
  | 1 => .debug
  | 2 => .info
  | 3 => .warn
  | 4 => .error
  | _ => .off

@[simp] theorem ofRank_rank (l : Level) : ofRank l.rank = l := by cases l <;> rfl

def order (a b : Level) : Ordering := compare a.rank b.rank

/-- Records of level `l` pass the threshold `threshold`. -/
def passes (threshold l : Level) : Bool := threshold ≠ .off && threshold.rank ≤ l.rank

/-- The name in records. -/
def label : Level → String
  | .trace => "TRACE"
  | .debug => "DEBUG"
  | .info => "INFO"
  | .warn => "WARN"
  | .error => "ERROR"
  | .off => "OFF"

/-- The name in descriptions of other values. -/
def title : Level → String
  | .trace => "Trace"
  | .debug => "Debug"
  | .info => "Info"
  | .warn => "Warn"
  | .error => "Error"
  | .off => "Off"

/-- A level by its lower-case name. -/
def named? (name : String) : Option Level :=
  if name = "trace" then some .trace
  else if name = "debug" then some .debug
  else if name = "info" then some .info
  else if name = "warn" then some .warn
  else if name = "error" then some .error
  else if name = "off" then some .off
  else none

/-- A level by its name in any case, with blanks around it; `warning` is `warn`. -/
def parse? (text : String) : Option Level :=
  let name := Text.lower (Text.trim text)
  if name = "warning" then some .warn else named? name

end Level

end CallBridge
