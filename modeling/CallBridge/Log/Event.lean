import CallBridge.Level

/-!
# Log events and records

An event is what code reports: a level, a target and named fields, one of which may be the
`message`. A record is what a sink receives: the same with all fields rendered into one text.
-/

namespace CallBridge.Log

structure Event where
  level : Level
  target : String
  fields : List (String × String)
deriving DecidableEq

structure Record where
  level : Level
  target : String
  message : String
deriving DecidableEq

def messageField : String := "message"

/-- An event with a message and further fields. -/
def Event.say (level : Level) (target message : String) (fields : List (String × String) := []) :
    Event :=
  ⟨level, target, (messageField, message) :: fields⟩

/-- What is gathered of an event's fields, one field after the other: the message, and the other
fields as one text. -/
structure Gathered where
  message : String := ""
  fields : String := ""
deriving DecidableEq

namespace Gathered

/-- Takes in a field. A message replaces an earlier one; any other field is added as `name=value`,
parted by a space from what is there. -/
def add (g : Gathered) (f : String × String) : Gathered :=
  if f.1 = messageField then { g with message := f.2 }
  else
    let parted := if g.fields = "" then "" else g.fields ++ " "
    { g with fields := parted ++ f.1 ++ "=" ++ f.2 }

/-- The message and the fields, with a space between them if neither is empty. -/
def text (g : Gathered) : String :=
  if g.fields = "" then g.message
  else if g.message = "" then g.fields
  else g.message ++ " " ++ g.fields

end Gathered

/-- The text of an event: all its fields, gathered in their order. -/
def Event.render (e : Event) : String := (e.fields.foldl Gathered.add {}).text

def Event.toRecord (e : Event) : Record := ⟨e.level, e.target, e.render⟩

end CallBridge.Log
