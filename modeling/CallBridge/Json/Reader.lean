import CallBridge.Json.Scan

/-!
# Reading JSON values

Arrays and objects may be nested `maxDepth` deep. Of several members under one key the last
counts, and members are kept sorted.
-/

namespace CallBridge.Json

open Scan

def maxDepth : Nat := 127

/-- The elements of an array up to its closing bracket, at least one; `room` bounds their
number. -/
def elements (inner : Symbols → Except Fault (Piece Json)) :
    Nat → Symbols → Except Fault (Piece (List Json))
  | 0, _ => .error .ended
  | room + 1, s => do
      let (v, s) ← inner s
      match skipBlanks s with
      | some ',' :: rest => do
          let (vs, rest) ← elements inner room rest
          .ok (v :: vs, rest)
      | some ']' :: rest => .ok ([v], rest)
      | other => .error (unexpected other)

/-- A key, its colon and its value. -/
def member (inner : Symbols → Except Fault (Piece Json)) (s : Symbols) :
    Except Fault (Piece (String × Json)) := do
  let s ← mark '"' s
  let (key, s) ← stringRest s
  let s ← mark ':' s
  let (v, s) ← inner s
  .ok ((key, v), s)

/-- The members of an object up to its closing brace, at least one. -/
def memberList (inner : Symbols → Except Fault (Piece Json)) :
    Nat → Symbols → Except Fault (Piece (List (String × Json)))
  | 0, _ => .error .ended
  | room + 1, s => do
      let (m, s) ← member inner s
      match skipBlanks s with
      | some ',' :: rest => do
          let (ms, rest) ← memberList inner room rest
          .ok (m :: ms, rest)
      | some '}' :: rest => .ok ([m], rest)
      | other => .error (unexpected other)

/-- An array from after its opening bracket. -/
def arrayRest (inner : Symbols → Except Fault (Piece Json)) (s : Symbols) :
    Except Fault (Piece Json) :=
  match skipBlanks s with
  | some ']' :: rest => .ok (.array [], rest)
  | s => do
      let (vs, rest) ← elements inner s.length s
      .ok (.array vs, rest)

/-- An object from after its opening brace. -/
def objectRest (inner : Symbols → Except Fault (Piece Json)) (s : Symbols) :
    Except Fault (Piece Json) :=
  match skipBlanks s with
  | some '}' :: rest => .ok (.object [], rest)
  | s => do
      let (ms, rest) ← memberList inner s.length s
      .ok (ofMembers ms, rest)

/-- One value; `inner` reads what is nested in it, and without `inner` nothing may be. -/
def valueWith (inner : Option (Symbols → Except Fault (Piece Json))) (s : Symbols) :
    Except Fault (Piece Json) :=
  match skipBlanks s with
  | some 'n' :: rest => do .ok (.null, ← word ['u', 'l', 'l'] rest)
  | some 't' :: rest => do .ok (.bool true, ← word ['r', 'u', 'e'] rest)
  | some 'f' :: rest => do .ok (.bool false, ← word ['a', 'l', 's', 'e'] rest)
  | some '"' :: rest => do
      let (text, rest) ← stringRest rest
      .ok (.string text, rest)
  | some '[' :: rest =>
      match inner with
      | some inner => arrayRest inner rest
      | none => .error .malformed
  | some '{' :: rest =>
      match inner with
      | some inner => objectRest inner rest
      | none => .error .malformed
  | s => match s with
      | [] => .error .ended
      | x :: _ =>
          if x = some '-' || isDigit x then do
            let (n, rest) ← Scan.number s
            .ok (.number n, rest)
          else .error .malformed

/-- A value in which at most `room` arrays and objects are nested. -/
def value : Nat → Symbols → Except Fault (Piece Json)
  | 0 => valueWith none
  | room + 1 => valueWith (some (value room))

/-- Nothing but blanks may follow a document. -/
def finish {α : Type} (r : Except Fault (Piece α)) : Except Fault α :=
  match r with
  | .ok (a, rest) => if skipBlanks rest = [] then .ok a else .error .malformed
  | .error e => .error e

def read (s : Symbols) : Except Fault Json := finish (value maxDepth s)

/-- The value of a JSON text. -/
def parse? (text : String) : Option Json := (read (Symbols.ofText text)).toOption

/-- The number that is the whole text. -/
def parseNumber? (text : String) : Option Number :=
  match Scan.number (Symbols.ofText text) with
  | .ok (n, []) => some n
  | _ => none

end CallBridge.Json
