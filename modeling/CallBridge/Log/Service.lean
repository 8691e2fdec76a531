import CallBridge.Config.Reader
import CallBridge.Log.Filter
import CallBridge.Log.Manager

/-!
# Logging of a whole process

Events reach the manager through a subscriber, which can be installed once. The one that logging
installs carries a filter: the text from the environment if there is a readable one, and otherwise
the manager's threshold at that moment.
-/

namespace CallBridge.Log

/-- An installed subscriber; without a filter every event is passed on. -/
structure Subscriber where
  filter : Option Filter := none

structure Service where
  /-- The filter text of the environment. -/
  environment : Option String := none
  manager : Manager := {}
  subscriber : Option Subscriber := none

namespace Service

def emit [Limits] (p : Service) (e : Event) (during : Option Level := none) : Service :=
  match p.subscriber with
  | none => p
  | some s =>
      if s.filter.all (fun f => f.allows e.target e.level) then
        { p with manager := p.manager.emit e during }
      else p

/-- Installs a subscriber unless there is one; tells whether it did. -/
def install (p : Service) (s : Subscriber) : Service × Bool :=
  match p.subscriber with
  | none => ({ p with subscriber := some s }, true)
  | some _ => (p, false)

def defaultFilter (p : Service) : Filter :=
  (p.environment.bind Filter.parse?).getD (.atLevel p.manager.level)

def alreadyInstalled : Event :=
  .say .debug "eel_logging::layer" "global subscriber already set, eel logging layer not installed"

/-- Starts logging. Where a subscriber is in place it stays, and is told so. -/
def start [Limits] (p : Service) : Service :=
  match p.install ⟨some p.defaultFilter⟩ with
  | (p, true) => p
  | (p, false) => p.emit alreadyInstalled

def startAt [Limits] (p : Service) (l : Level) : Service :=
  start { p with manager := { p.manager with level := l } }

/-- Starts logging at the level that a configuration names. -/
def startFrom [Limits] (p : Service) (c : Config) : Service × Except BridgeError Unit :=
  match c.level with
  | .ok l => (p.startAt l, .ok ())
  | .error e => (p, .error e)

end Service

end CallBridge.Log
