import CallBridge.Message.Basic

/-!
# Frames

A frame is the text of one message. Writing one never fails. A text that is not JSON is refused
with itself as payload, JSON of another shape with its compact text.
-/

namespace CallBridge

inductive CodecError where
  | serialization (text : String)
  | deserialization (text : String)
  | invalidFormat (raw : String)

namespace CodecError

def display : CodecError → String
  | .serialization text => "serialization error: " ++ text
  | .deserialization text => "deserialization error: " ++ text
  | .invalidFormat raw => "invalid format: " ++ raw

def toBridge : CodecError → BridgeError
  | .invalidFormat raw => .malformed raw
  | other => .serialization other.display

/-- Only a failing writer counts as a serialization error; anything about the content counts as
deserialization, in whichever direction it arose. -/
def ofDocument : DocumentError → CodecError
  | .io text => .serialization text
  | .content text => .deserialization text

end CodecError

namespace Message

/-- The message that a value is, or the payload of the refusal. -/
def classify (v : Json) : Except String Message :=
  match ofJson? v with
  | some m => .ok m
  | none => .error v.compact

def encode (layout : Json.Layout) (m : Message) : String := m.toJson.print layout

def decode (frame : String) : Except CodecError Message :=
  match Json.parse? frame with
  | none => .error (.invalidFormat frame)
  | some v =>
      match classify v with
      | .ok m => .ok m
      | .error raw => .error (.invalidFormat raw)

end Message

/-! ## Other documents -/

/-- A document that is not yet JSON: a map may have keys that are no texts, and a value may refuse
to be written. -/
inductive Document where
  | value (v : Json)
  | map (entries : List (Json × Json))
  | refusing (text : String)

namespace Document

/-- A key is a text, or an integer, which is written as one. -/
def keyText : Json → Except DocumentError String
  | .string s => .ok s
  | .number (.int i) => .ok (String.ofList (Json.intText i.val))
  | _ => .error (.content "key must be a string")

def toJson : Document → Except DocumentError Json
  | .value v => .ok v
  | .map entries => do
      let members ← entries.mapM fun e => return (← keyText e.1, e.2)
      .ok (.object members)
  | .refusing text => .error (.content text)

def encode (layout : Json.Layout) (d : Document) : Except CodecError String :=
  match d.toJson with
  | .ok v => .ok (v.print layout)
  | .error e => .error (.ofDocument e)

instance : Writable Document := ⟨toJson⟩

end Document

/-- Reads a text as an array of bytes. -/
def readBytes (text : String) : Except DocumentError (List UInt8) :=
  match Json.parse? text with
  | none => .error (.content "malformed text")
  | some v =>
      match Argument.decode v with
      | .ok bytes => .ok bytes
      | .error m => .error (.content m.message)

end CallBridge
