import CallBridge.Config.Basic
import CallBridge.Json.Reader

/-!
# Reading a configuration

A configuration is read straight from its text, without building a value first: what belongs to no
field is only checked for its form, at any depth, and the first fault in reading order is the one
reported. Besides an object, an array with the fields in their order is taken. An empty text is
the default configuration.
-/

namespace CallBridge.Config

open Json Scan

/-! ## Passing over values -/

/-- The elements of an array or object up to `close`, at least one. -/
def skipElements (one : Symbols → Except Fault Symbols) (close : Char) :
    Nat → Symbols → Except Fault Symbols
  | 0, _ => .error .ended
  | room + 1, s => do
      let s ← one s
      match skipBlanks s with
      | some ',' :: rest => skipElements one close room rest
      | x :: rest => if x = some close then .ok rest else .error .malformed
      | [] => .error .ended

/-- An array or object from after its opening bracket. -/
def skipBracket (one : Symbols → Except Fault Symbols) (close : Char) (s : Symbols) :
    Except Fault Symbols :=
  match skipBlanks s with
  | [] => .error .ended
  | x :: rest =>
      if x = some close then .ok rest else skipElements one close (x :: rest).length (x :: rest)

def skipMember (inner : Symbols → Except Fault Symbols) (s : Symbols) : Except Fault Symbols := do
  inner (← mark ':' (← skipString (← mark '"' s)))

/-- Passes over one value of any form; `room` bounds the nesting. -/
def skipValue : Nat → Symbols → Except Fault Symbols
  | 0, _ => .error .ended
  | room + 1, s =>
      match skipBlanks s with
      | some 'n' :: rest => word ['u', 'l', 'l'] rest
      | some 't' :: rest => word ['r', 'u', 'e'] rest
      | some 'f' :: rest => word ['a', 'l', 's', 'e'] rest
      | some '"' :: rest => skipString rest
      | some '[' :: rest => skipBracket (skipValue room) ']' rest
      | some '{' :: rest => skipBracket (skipMember (skipValue room)) '}' rest
      | s => match s with
          | [] => .error .ended
          | x :: _ => if x = some '-' || isDigit x then skipNumber s else .error .malformed

/-! ## Typed values -/

/-- The fault of a value of another type. A scalar is read to its end first. -/
def wrongType (expected : String) (s : Symbols) : Fault :=
  match s with
  | [] => .ended
  | some '[' :: _ => .unfit (.wrongType .sequence expected)
  | some '{' :: _ => .unfit (.wrongType .map expected)
  | x :: _ =>
      if x = some 'n' || x = some 't' || x = some 'f' || x = some '"' || x = some '-' ||
          isDigit x then
        match valueWith none s with
        | .ok (v, _) => .unfit (.wrongType (.ofJson v) expected)
        | .error e => e
      else .malformed

def readString (expected : String) (s : Symbols) : Except Fault (Piece String) :=
  match skipBlanks s with
  | some '"' :: rest => stringRest rest
  | other => .error (wrongType expected other)

def readBool (s : Symbols) : Except Fault (Piece Bool) :=
  match skipBlanks s with
  | some 't' :: rest => do .ok (true, ← word ['r', 'u', 'e'] rest)
  | some 'f' :: rest => do .ok (false, ← word ['a', 'l', 's', 'e'] rest)
  | other => .error (wrongType "a boolean" other)

/-- A count of 64 bits. -/
def readCount (s : Symbols) : Except Fault (Piece UInt64) :=
  match skipBlanks s with
  | [] => .error .ended
  | x :: rest =>
      if x = some '-' || isDigit x then do
        let (n, rest) ← Scan.number (x :: rest)
        match n with
        | .int i =>
            if 0 ≤ i.val then .ok (UInt64.ofNat i.val.toNat, rest)
            else .error (.unfit (.wrongValue (.integer i.val) "u64"))
        | .float f => .error (.unfit (.wrongType (.float f) "u64"))
      else .error (wrongType "u64" (x :: rest))

def readTimeout (s : Symbols) : Except Fault (Piece (Option UInt64)) :=
  match skipBlanks s with
  | some 'n' :: rest => do .ok (none, ← word ['u', 'l', 'l'] rest)
  | s => do
      let (n, rest) ← readCount s
      .ok (some n, rest)

def policyNamed (name : String) : Except Fault DispatchPolicy :=
  if name = "return_error" then .ok .returnError
  else if name = "drop" then .ok .drop
  else .error (.unfit (.unknownVariant name "return_error" "drop"))

/-- A null. -/
def readNull (s : Symbols) : Except Fault Symbols :=
  match skipBlanks s with
  | some 'n' :: rest => word ['u', 'l', 'l'] rest
  | other => .error (wrongType "unit" other)

/-- The name of a policy, or an object with the name as its only key and null as its value. -/
def readPolicy (s : Symbols) : Except Fault (Piece DispatchPolicy) :=
  match skipBlanks s with
  | some '"' :: rest => do
      let (name, rest) ← stringRest rest
      .ok (← policyNamed name, rest)
  | some '{' :: rest => do
      let (name, rest) ← readString "variant identifier" rest
      let policy ← policyNamed name
      let rest ← readNull (← mark ':' rest)
      .ok (policy, ← mark '}' rest)
  | other => .error (unexpected other)

/-- Texts up to the closing bracket, at least one. -/
def readTexts : Nat → Symbols → Except Fault (Piece (List String))
  | 0, _ => .error .ended
  | room + 1, s => do
      let (text, s) ← readString "a string" s
      match skipBlanks s with
      | some ',' :: rest => do
          let (texts, rest) ← readTexts room rest
          .ok (text :: texts, rest)
      | some ']' :: rest => .ok ([text], rest)
      | other => .error (unexpected other)

def readNames (s : Symbols) : Except Fault (Piece (List String)) :=
  match skipBlanks s with
  | some '[' :: rest =>
      match skipBlanks rest with
      | some ']' :: rest => .ok ([], rest)
      | s => readTexts s.length s
  | other => .error (wrongType "a sequence" other)

/-! ## Fields -/

inductive Field where
  | remoteFunctions
  | callTimeout
  | dispatchErrors
  | logLevel
  | prettyJson
deriving DecidableEq

namespace Field

def name : Field → String
  | .remoteFunctions => "remote_functions"
  | .callTimeout => "call_timeout_ms"
  | .dispatchErrors => "dispatch_errors"
  | .logLevel => "log_level"
  | .prettyJson => "pretty_json"

/-- All fields, in the order of an array. -/
def all : List Field := [.remoteFunctions, .callTimeout, .dispatchErrors, .logLevel, .prettyJson]

def named? (key : String) : Option Field := all.find? fun f => f.name = key

/-- Reads the value of a field into a configuration. -/
def read (f : Field) (c : Config) (s : Symbols) : Except Fault (Piece Config) :=
  match f with
  | .remoteFunctions => do
      let (names, rest) ← readNames s
      .ok ({ c with remoteFunctions := names }, rest)
  | .callTimeout => do
      let (ms, rest) ← readTimeout s
      .ok ({ c with timeoutMs := ms }, rest)
  | .dispatchErrors => do
      let (policy, rest) ← readPolicy s
      .ok ({ c with dispatchErrors := policy }, rest)
  | .logLevel => do
      let (text, rest) ← readString "a string" s
      .ok ({ c with logLevel := text }, rest)
  | .prettyJson => do
      let (b, rest) ← readBool s
      .ok ({ c with prettyJson := b }, rest)

end Field

/-- What has been read of an object: the configuration, and the fields seen. -/
structure Draft where
  config : Config := {}
  seen : List Field := []

/-- A key and its value. A field that comes again is refused at its key. -/
def readMember (d : Draft) (s : Symbols) : Except Fault (Piece Draft) := do
  let (key, s) ← stringRest (← mark '"' s)
  match Field.named? key with
  | some f =>
      if f ∈ d.seen then .error (.unfit (.duplicateField f.name))
      else do
        let (c, rest) ← f.read d.config (← mark ':' s)
        .ok (⟨c, f :: d.seen⟩, rest)
  | none => do
      let s ← mark ':' s
      .ok (d, ← skipValue s.length s)

/-- The members of an object up to its closing brace, at least one. -/
def readMembers : Nat → Draft → Symbols → Except Fault (Piece Draft)
  | 0, _, _ => .error .ended
  | room + 1, d, s => do
      let (d, s) ← readMember d s
      match skipBlanks s with
      | some ',' :: rest => readMembers room d rest
      | some '}' :: rest => .ok (d, rest)
      | other => .error (unexpected other)

/-- The fields of an array, each but the first after a comma; fields that are left out keep their
defaults. -/
def readFields (c : Config) : List Field → Symbols → Except Fault (Piece Config)
  | [], s =>
      match skipBlanks s with
      | some ']' :: rest => .ok (c, rest)
      | [] => .error .ended
      | _ => .error .malformed
  | f :: fields, s =>
      match skipBlanks s with
      | some ']' :: rest => .ok (c, rest)
      | some ',' :: rest => do
          let (c, rest) ← f.read c rest
          readFields c fields rest
      | other => .error (unexpected other)

def readDocument (s : Symbols) : Except Fault (Piece Config) :=
  match skipBlanks s with
  | some '{' :: rest =>
      match skipBlanks rest with
      | some '}' :: rest => .ok ({}, rest)
      | s => do
          let (d, rest) ← readMembers s.length {} s
          .ok (d.config, rest)
  | some '[' :: rest =>
      match skipBlanks rest with
      | some ']' :: rest => .ok ({}, rest)
      | s => do
          let (c, rest) ← Field.remoteFunctions.read {} s
          readFields c [.callTimeout, .dispatchErrors, .logLevel, .prettyJson] rest
  | other => .error (wrongType "struct BridgeConfig" other)

/-- The configuration that a text says. -/
def ofSymbols (s : Symbols) : Except Fault Config :=
  if s.isEmpty then .ok {} else finish (readDocument s)

def ofText (text : String) : Except Fault Config := ofSymbols (.ofText text)

def ofBytes (bytes : ByteArray) : Except Fault Config := ofSymbols (.ofBytes bytes)

end CallBridge.Config
