import CallBridge.Limits
import CallBridge.Log.Event

/-!
# The log manager

The manager holds a threshold and at most one sink. A record passes if its level reaches the
threshold, and the threshold is not `off`. A sink may act on the manager while it receives a
record: note something down, change the threshold, remove or replace the sink, or log again.
What sinks noted down is kept in order.
-/

namespace CallBridge.Log

/-- What a sink does with a record, step by step. -/
inductive Reaction where
  | done
  | note (entry : List String) (next : Reaction)
  | setLevel (l : Level) (next : Reaction)
  | clearSink (next : Reaction)
  | setSink (sink : Record → Reaction) (next : Reaction)
  | log (r : Record) (next : Reaction)

abbrev Sink := Record → Reaction

structure Manager where
  level : Level := .info
  sink : Option Sink := none
  notes : List (List String) := []

namespace Manager

def enabled (m : Manager) (l : Level) : Bool := m.level.passes l

/-- Runs a reaction; `again` is how it logs. -/
def react (again : Manager → Record → Manager) : Reaction → Manager → Manager
  | .done, m => m
  | .note entry next, m => react again next { m with notes := m.notes ++ [entry] }
  | .setLevel l next, m => react again next { m with level := l }
  | .clearSink next, m => react again next { m with sink := none }
  | .setSink sink next, m => react again next { m with sink := some sink }
  | .log r next, m => react again next (again m r)

/-- Hands a record to the sink if it passes. -/
def logWith (again : Manager → Record → Manager) (m : Manager) (r : Record) : Manager :=
  if m.enabled r.level then
    match m.sink with
    | some sink => react again (sink r) m
    | none => m
  else m

/-- Logs with sinks that may log in turn, nested `depth` times at most. -/
def logNested : Nat → Manager → Record → Manager
  | 0 => logWith fun m _ => m
  | depth + 1 => logWith (logNested depth)

def log [Limits] (m : Manager) (r : Record) : Manager := logNested Limits.records m r

/-- Passes an event on. While its fields are computed the threshold may change, to `during`; the
event must pass before and after. -/
def emit [Limits] (m : Manager) (e : Event) (during : Option Level := none) : Manager :=
  if m.enabled e.level then
    let m := { m with level := during.getD m.level }
    if m.enabled e.level then m.log e.toRecord else m
  else m

def describe (m : Manager) : String :=
  "LogSinkManager \x7b level: " ++ m.level.title ++ ", has_sink: "
    ++ (if m.sink.isSome then "true" else "false") ++ " \x7d"

end Manager

/-! ## Sinks -/

namespace Sink

def recording : Sink := fun r => .note [r.level.label, r.target, r.message] .done

def tagged (tag : String) : Sink := fun r => .note [tag, r.level.label, r.message] .done

/-- Removes itself. -/
def clearing : Sink := fun r => .note ["clears", r.message] (.clearSink .done)

/-- Installs a recording sink in its place. -/
def replacing : Sink := fun r => .note ["replaces", r.message] (.setSink recording .done)

/-- Moves the threshold just above the record. -/
def raising : Sink := fun r =>
  .note ["raises", r.level.label, r.message] (.setLevel (.ofRank (r.level.rank + 1)) .done)

/-- Logs the record again one level lower. -/
def relogging : Sink := fun r =>
  .note ["relogs", r.level.label, r.message]
    (if 0 < r.level.rank then .log { r with level := .ofRank (r.level.rank - 1) } .done else .done)

end Sink

end CallBridge.Log
