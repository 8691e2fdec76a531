import CallBridge.Json.Printer
import CallBridge.Text.Quoted

/-!
# Values of the wrong type

What was found where a typed value was wanted, and why it does not fit. The wording is in
`Mismatch.message` alone.
-/

namespace CallBridge

/-- What stood where something else was expected. -/
inductive Found where
  | null
  | bool (b : Bool)
  | integer (i : Int)
  | float (x : Float)
  | text (s : String)
  | sequence
  | map

namespace Found

def describe : Found → String
  | .null => "null"
  | .bool b => "boolean `" ++ (if b then "true" else "false") ++ "`"
  | .integer i => "integer `" ++ String.ofList (Json.intText i) ++ "`"
  | .float x => "floating point `" ++ String.ofList (Json.floatText x) ++ "`"
  | .text s => "string " ++ Text.quoted s
  | .sequence => "sequence"
  | .map => "map"

def ofNumber : Number → Found
  | .int i => .integer i.val
  | .float x => .float x

def ofJson : Json → Found
  | .null => .null
  | .bool b => .bool b
  | .number n => ofNumber n
  | .string s => .text s
  | .array _ => .sequence
  | .object _ => .map

end Found

inductive Mismatch where
  | wrongType (found : Found) (expected : String)
  | wrongValue (found : Found) (expected : String)
  | wrongLength (length : Nat) (expected : String)
  | unknownVariant (name : String) (first second : String)
  | missingField (name : String)
  | duplicateField (name : String)
  | refused (text : String)

def Mismatch.message : Mismatch → String
  | .wrongType found expected => "invalid type: " ++ found.describe ++ ", expected " ++ expected
  | .wrongValue found expected => "invalid value: " ++ found.describe ++ ", expected " ++ expected
  | .wrongLength length expected =>
      "invalid length " ++ toString length ++ ", expected " ++ expected
  | .unknownVariant name first second =>
      "unknown variant `" ++ name ++ "`, expected `" ++ first ++ "` or `" ++ second ++ "`"
  | .missingField name => "missing field `" ++ name ++ "`"
  | .duplicateField name => "duplicate field `" ++ name ++ "`"
  | .refused text => text

end CallBridge
