import CallBridge.Argument.Basic
import CallBridge.Message.Token

/-!
# Messages

A call asks for a function by name; a return completes it with a value, with nothing, or with an
error. On the wire each is one object:

    {"call": token, "name": text, "args": [...]}
    {"return": token, "value": ...}
    {"return": token, "error": {"code": number, "message": text}}

An object with a `call` member is a call and nothing else, whatever other members it has.
-/

namespace CallBridge

structure Call where
  id : CallId
  name : String
  args : List Json
deriving BEq

/-- An error as it travels. -/
structure ReturnError where
  code : UInt32
  message : String
deriving DecidableEq

structure Return where
  id : CallId
  value : Option Json := none
  error : Option ReturnError := none
deriving BEq

inductive Message where
  | call (c : Call)
  | ret (r : Return)
deriving BEq

def ReturnError.ofError (e : BridgeError) : ReturnError := ⟨e.code, e.message⟩

def ReturnError.toJson (e : ReturnError) : Json :=
  .object [("code", Argument.encode e.code), ("message", .string e.message)]

/-- An object with the two members, or an array of just these two. -/
def ReturnError.ofJson? : Json → Option ReturnError
  | .object members => do
      let code ← members.lookup "code"
      let message ← members.lookup "message"
      fields code message
  | .array [code, message] => fields code message
  | _ => none
where
  fields (code message : Json) : Option ReturnError := do
    let code ← (Argument.decode code).toOption
    let message ← (Argument.decode message).toOption
    pure ⟨code, message⟩

/-- The return that a function's result becomes. -/
def Return.ofReply (id : CallId) : Reply → Return
  | .ok value => { id, value }
  | .error e => { id, error := some (.ofError e) }

/-- The outcome for the waiting caller; a missing value is null. -/
def Return.outcome (r : Return) : Outcome :=
  match r.error with
  | some e => .error (.remote e.code e.message)
  | none => .ok (r.value.getD .null)

namespace Message

def id : Message → CallId
  | .call c => c.id
  | .ret r => r.id

/-! ## Reading -/

def callOfMembers? (members : List (String × Json)) : Option Call := do
  let id ← (members.lookup "call").bind CallId.ofJson?
  let name ← match members.lookup "name" with
    | some (.string s) => some s
    | _ => none
  let args ← match members.lookup "args" with
    | none => some []
    | some (.array items) => some items
    | some _ => none
  pure ⟨id, name, args⟩

def returnOfMembers? (members : List (String × Json)) : Option Return := do
  let id ← (members.lookup "return").bind CallId.ofJson?
  let value := match members.lookup "value" with
    | some .null => none
    | other => other
  let error ← match members.lookup "error" with
    | none => some none
    | some .null => some none
    | some v => (ReturnError.ofJson? v).map some
  pure ⟨id, value, error⟩

def ofJson? : Json → Option Message
  | .object members =>
      if Keyed.contains "call" members then (callOfMembers? members).map .call
      else (returnOfMembers? members).map .ret
  | _ => none

/-! ## Writing -/

/-- The members of a message in the order in which they are written. -/
def toJson : Message → Json
  | .call c => .object [("call", c.id.toJson), ("name", .string c.name), ("args", .array c.args)]
  | .ret r =>
      .object (("return", r.id.toJson)
        :: (r.value.map fun v => ("value", v)).toList
        ++ (r.error.map fun e => ("error", e.toJson)).toList)

end Message

end CallBridge
