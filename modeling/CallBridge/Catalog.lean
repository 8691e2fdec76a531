import CallBridge.Argument.Signature

/-!
# A catalog of functions and callbacks

Functions that a session can expose by name, and callbacks that it can bind. Some take typed
arguments and leave the bridges alone, others reach back into the bridge that exposes them.
-/

namespace CallBridge

/-! ## Two types of its own -/

structure Point where
  x : Int64
  y : Int64 := 0
  label : Option String := none

namespace Point

def shape : String := "struct Point"

/-- What has been read of a point. -/
structure Draft where
  x : Option Int64 := none
  y : Int64 := 0
  label : Option String := none

/-- Members are read in key order; unknown ones are ignored. -/
def readMember (d : Draft) (m : String × Json) : Except Mismatch Draft :=
  if m.1 = "x" then do return { d with x := some (← Argument.decode m.2) }
  else if m.1 = "y" then do return { d with y := ← Argument.decode m.2 }
  else if m.1 = "label" then do return { d with label := ← Argument.decode m.2 }
  else .ok d

/-- The three fields in order. The second may be missing, but not the third. -/
def readItems : List Json → Except Mismatch Point
  | [] => .error (.wrongLength 0 (shape ++ " with 3 elements"))
  | [x] => do
      let _ : Int64 ← Argument.decode x
      .error (.wrongLength 2 (shape ++ " with 3 elements"))
  | [x, y] => do
      let _ : Int64 ← Argument.decode x
      let _ : Int64 ← Argument.decode y
      .error (.wrongLength 2 (shape ++ " with 3 elements"))
  | x :: y :: label :: rest => do
      let p : Point := ⟨← Argument.decode x, ← Argument.decode y, ← Argument.decode label⟩
      if rest.isEmpty then .ok p
      else .error (.wrongLength (rest.length + 3) "fewer elements in array")

def read : Json → Except Mismatch Point
  | .object members => do
      let d ← members.foldlM readMember {}
      match d.x with
      | some x => .ok ⟨x, d.y, d.label⟩
      | none => .error (.missingField "x")
  | .array items => readItems items
  | v => .error (.wrongType (.ofJson v) shape)

end Point

instance : Argument Point where
  decode := Point.read
  encode p := .object
    [("label", Argument.encode p.label), ("x", Argument.encode p.x), ("y", Argument.encode p.y)]

inductive Color where
  | red
  | darkBlue
deriving DecidableEq

instance : Argument Color where
  decode := Argument.decodeVariant ("red", .red) ("dark_blue", .darkBlue)
  encode
    | .red => .string "red"
    | .darkBlue => .string "dark_blue"

namespace Catalog

/-! ## Typed functions -/

/-- Adds, and breaks off where the sum does not fit. -/
def add : Function := .binary fun (a b : Int64) =>
  if (a + b).toInt = a.toInt + b.toInt then .value (a + b) else .panicked (.text "add overflow")

def greet : Function := .unary fun (who : String) => .value ("hello " ++ who)

def divide : Function := .binary fun (a b : Float) =>
  .result (if b == 0 then .error "division by zero" else .ok (a / b))

def ping : Function := .nullary .nothing

def unit : Function := .unary fun (_ : Int64) => .nothing

def concat : Function := .binary fun (a : String) (b : Option String) => .value (a ++ b.getD "-")

/-- Adds with wrap-around. -/
def sum : Function := .unary fun (xs : List Int64) => .value (xs.foldl (· + ·) 0)

def not : Function := .unary fun (b : Bool) => .value (!b)

def swap : Function := .unary fun (p : Int64 × String) => .value (p.2, p.1)

def sqrt : Function := .unary fun (x : Float) => .value x.sqrt

def code : Function := .unary fun (c : Char) => .value c.val

def byte : Function := .unary fun (x : UInt8) => .value x

def unsigned : Function := .unary fun (x : UInt64) => .value x

def echo : Function := .unary fun (v : Json) => .value v

def maybe : Function := .unary fun (x : Option Int64) => .value x

def count : Function := .unary fun (m : Argument.TextMap Int64) =>
  .value (UInt64.ofNat m.entries.length)

def flip : Function := .unary fun (p : Point) => .value { p with x := p.y, y := p.x }

def paint : Function := .unary fun (c : Color) =>
  .value (if c = .red then Color.darkBlue else Color.red)

/-- Refuses negative numbers. -/
def strict : Function := .unary fun (x : Int64) =>
  .result (if x < 0 then
      .error (BridgeError.unknownFunction ("neg " ++ String.ofList (Json.intText x.toInt))).display
    else .ok x)

def tryUnit : Function := .unary fun (ok : Bool) => .result (if ok then .ok () else .error "")

/-- Breaks off with a given text. -/
def boom : Function := .unary fun (text : String) => .panicked (.text text)

def boomText : Function := .nullary (.panicked (.text "kaboom"))

/-- Breaks off with something that is no text. -/
def boomOther : Function := .nullary (.panicked .other)

def number (i : Int64) : Function := .nullary (.value i)

/-- Fails with the error of a code. -/
def fail : Function := .binary fun (code : UInt32) (text : String) => .failed (.ofCode code text)

def failRemote : Function := .binary fun (code : UInt32) (text : String) =>
  .failed (.remote code text)

def failState : Function := .binary fun (expected actual : String) =>
  .failed (.invalidState expected actual)

/-- Returns a map whose key is no text. -/
def badKey : Function := .nullary (.value (Document.map [(.array [], .null)]))

/-- The functions that leave the bridges alone. -/
def plain? (name : String) : Option (List Json → Ending) :=
  if name = "args" then some fun args => .value args
  else (typed.lookup name).map Function.apply
where
  typed : List (String × Function) := [
    ("add", add), ("greet", greet), ("divide", divide), ("ping", ping), ("unit", unit),
    ("concat", concat), ("sum", sum), ("not", not), ("swap", swap), ("sqrt", sqrt),
    ("code", code), ("byte", byte), ("unsigned", unsigned), ("echo", echo), ("maybe", maybe),
    ("count", count), ("flip", flip), ("paint", paint), ("strict", strict),
    ("try_unit", tryUnit), ("boom", boom), ("boom_str", boomText), ("boom_any", boomOther),
    ("void", .nullary .nothing), ("null", .nullary (.returned (some .null))), ("one", number 1),
    ("two", number 2), ("fail", fail), ("fail_remote", failRemote), ("fail_state", failState),
    ("bad_key", badKey)]

/-! ## Functions that reach back into their bridge -/

section Reaching

variable {n : Nat} (b : Fin n)

def returnNothing {α : Type} : α → Proc n := fun _ => .done .nothing

/-- Calls onward and ignores what comes back. -/
def relay : List Json → Proc n := fun args =>
  .call b "downstream" args (fun _ => .done .nothing) [] (.orFail returnNothing)

/-- Calls onward and lets go of the call. -/
def lost : List Json → Proc n := fun args =>
  .callAndForget b "downstream" args (.orFail returnNothing)

/-- Exposes one more function, and lists them all. -/
def reexpose : List Json → Proc n := fun args =>
  .orFail (fun name =>
    .expose b name (fun _ => .done (.value "late")) [] (.names b fun names => .done (.value names)))
    (Argument.get String args 0)

def reopen : List Json → Proc n :=
  fun _ => .openWith b ⟨.void, fun _ => none⟩ (.orFail returnNothing)

/-- Handles a frame on the way. -/
def nested : List Json → Proc n := fun args =>
  .orFail (fun frame => .handle b frame (.orFail fun _ => .done (.value "nested done")))
    (Argument.get String args 0)

/-- The state of the bridge as a value. -/
def statusJson (s : Status) : Json :=
  .array [.string s.state.name, Argument.encode (UInt64.ofNat s.pending),
    Argument.encode (UInt64.ofNat s.buffered)]

def info : List Json → Proc n := fun _ => .status b fun s => .done (.returned (some (statusJson s)))

end Reaching

/-- The function of this name, for exposing on bridge `b`. -/
def function? {n : Nat} (b : Fin n) (name : String) : Option (Exposed n) :=
  match plain? name with
  | some f => some ⟨fun args => .done (f args), []⟩
  | none => ((reaching b).lookup name).map fun body => ⟨body, [b]⟩
where
  reaching (b : Fin n) : List (String × (List Json → Proc n)) := [
    ("relay", relay b), ("lost", lost b), ("reexpose", reexpose b), ("reopen", reopen b),
    ("nested", nested b), ("info", info b)]

/-! ## Callbacks -/

/-- What a callback does after it has noted its outcome. -/
inductive Sequel (n : Nat) where
  | nothing
  | panic
  | call (b : Fin n)
  | expose (b : Fin n)
  | handle (b : Fin n) (frame : String)

namespace Sequel

variable {n : Nat}

def holds : Sequel n → List (Fin n)
  | .nothing => []
  | .panic => []
  | .call b => [b]
  | .expose b => [b]
  | .handle b _ => [b]

/-- An outcome as the argument of a further call: the value, or the text of the error. -/
def outcomeJson : Outcome → Json
  | .ok v => v
  | .error e => .string e.display

/-- Notes an outcome and ends. -/
def noting (label : String) (what : Outcome) : Proc n := .note label what (.done .nothing)

def proc (label : String) (o : Outcome) : Sequel n → Proc n
  | .nothing => .done .nothing
  | .panic => .panic (.text ("callback " ++ label))
  | .call b =>
      .call b "chained" [outcomeJson o] (fun o => noting (label ++ "/chained") o) []
        fun
        | .ok _ => .done .nothing
        | .error e => noting (label ++ "/failed") (.error e)
  | .expose b => .expose b label (fun _ => .done (.returned o.toOption)) [] (.done .nothing)
  | .handle b frame =>
      .handle b frame fun
        | .ok () => noting (label ++ "/handle") (.ok (.string "handled"))
        | .error e => noting (label ++ "/handle") (.error e)

/-- The callback that notes its outcome under `label` and then goes on. -/
def callback (label : String) (s : Sequel n) : Callback n :=
  ⟨fun o => .note label o (s.proc label o), s.holds⟩

end Sequel

end Catalog

end CallBridge
