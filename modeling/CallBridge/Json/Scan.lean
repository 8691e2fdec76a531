import CallBridge.Decimal.Scaled
import CallBridge.Mismatch
import CallBridge.Text.Digit
import CallBridge.Text.Symbols

/-!
# Pieces of JSON text

Readers for the pieces that every JSON text is made of: blanks, fixed words, strings and numbers.
A reader returns what it read and the rest. It fails where reading in order first goes wrong: the
text has `ended` too early, is `malformed`, or is well formed and `unfit` for the type wanted.
-/

namespace CallBridge

inductive Fault where
  | ended
  | malformed
  | unfit (m : Mismatch)

/-- What was read, and the rest. -/
abbrev Piece (α : Type) := α × Symbols

namespace Scan

/-- The fault of meeting something else than what must come here. -/
def unexpected : Symbols → Fault
  | [] => .ended
  | _ :: _ => .malformed

def isBlank (x : Symbol) : Bool := x = some ' ' || x = some '\n' || x = some '\t' || x = some '\r'

def skipBlanks (s : Symbols) : Symbols := s.dropWhile isBlank

/-- Passes over `word`. -/
def word : List Char → Symbols → Except Fault Symbols
  | [], s => .ok s
  | _ :: _, [] => .error .ended
  | c :: cs, x :: rest => if x = some c then word cs rest else .error .malformed

/-- Passes over blanks and then `c`. -/
def mark (c : Char) (s : Symbols) : Except Fault Symbols :=
  match skipBlanks s with
  | [] => .error .ended
  | x :: rest => if x = some c then .ok rest else .error .malformed

/-! ## Strings -/

def hexValue (x : Symbol) : Option Nat := x.bind Text.hexDigit?

def hexValue4 (a b c d : Symbol) : Option Nat :=
  match hexValue a, hexValue b, hexValue c, hexValue d with
  | some a, some b, some c, some d => some (a * 4096 + b * 256 + c * 16 + d)
  | _, _, _, _ => none

/-- The fault of an escape that lacks its four digits: it takes four bytes to see that they are
wrong. -/
def shortHex (s : Symbols) : Fault := if s.byteSize < 4 then .ended else .malformed

def isLeading (n : Nat) : Bool := 0xD800 ≤ n && n ≤ 0xDBFF

def isTrailing (n : Nat) : Bool := 0xDC00 ≤ n && n ≤ 0xDFFF

/-- The character of a surrogate pair. -/
def pairChar (leading trailing : Nat) : Char :=
  Char.ofNat ((leading - 0xD800) * 1024 + (trailing - 0xDC00) + 0x10000)

/-- What a one-letter escape stands for. -/
def unescape (c : Char) : Option Char :=
  if c = '"' then some '"'
  else if c = '\\' then some '\\'
  else if c = '/' then some '/'
  else if c = 'b' then some '\x08'
  else if c = 'f' then some '\x0c'
  else if c = 'n' then some '\n'
  else if c = 'r' then some '\r'
  else if c = 't' then some '\t'
  else none

/-- Puts a symbol in front of what the rest of a string gave. -/
def consSymbol (x : Symbol) : Except Fault (Piece Symbols) → Except Fault (Piece Symbols)
  | .ok (xs, rest) => .ok (x :: xs, rest)
  | .error e => .error e

/-- The symbols of a string, from after its opening quote to its closing one. Escaped surrogates
must come in pairs. -/
def stringSymbols : Symbols → Except Fault (Piece Symbols)
  | [] => .error .ended
  | some '"' :: rest => .ok ([], rest)
  | some '\\' :: [] => .error .ended
  | some '\\' :: some 'u' :: rest =>
      match rest with
      | a :: b :: c :: d :: rest =>
          match hexValue4 a b c d with
          | none => .error .malformed
          | some n =>
              if isTrailing n then .error .malformed
              else if isLeading n then
                match rest with
                | some '\\' :: some 'u' :: rest =>
                    match rest with
                    | a :: b :: c :: d :: rest =>
                        match hexValue4 a b c d with
                        | none => .error .malformed
                        | some m =>
                            if isTrailing m then
                              consSymbol (some (pairChar n m)) (stringSymbols rest)
                            else .error .malformed
                    | short => .error (shortHex short)
                | [some '\\'] => .error .ended
                | other => .error (unexpected other)
              else consSymbol (some (Char.ofNat n)) (stringSymbols rest)
      | short => .error (shortHex short)
  | some '\\' :: x :: rest =>
      match x.bind unescape with
      | some c => consSymbol (some c) (stringSymbols rest)
      | none => .error .malformed
  | some c :: rest =>
      if c.toNat < 0x20 then .error .malformed else consSymbol (some c) (stringSymbols rest)
  | none :: rest => consSymbol none (stringSymbols rest)

/-- A string from after its opening quote; all of it must be characters. -/
def stringRest (s : Symbols) : Except Fault (Piece String) := do
  let (symbols, rest) ← stringSymbols s
  match symbols.toText? with
  | some text => .ok (text, rest)
  | none => .error .malformed

/-- Passes over a string from after its opening quote, without asking what it says. -/
def skipString : Symbols → Except Fault Symbols
  | [] => .error .ended
  | some '"' :: rest => .ok rest
  | some '\\' :: [] => .error .ended
  | some '\\' :: some 'u' :: rest =>
      match rest with
      | a :: b :: c :: d :: rest =>
          match hexValue4 a b c d with
          | none => .error .malformed
          | some _ => skipString rest
      | short => .error (shortHex short)
  | some '\\' :: x :: rest =>
      match x.bind unescape with
      | some _ => skipString rest
      | none => .error .malformed
  | some c :: rest => if c.toNat < 0x20 then .error .malformed else skipString rest
  | none :: rest => skipString rest

/-! ## Numbers -/

def digitValue (x : Symbol) : Option Nat :=
  match x with
  | some c => if '0' ≤ c && c ≤ '9' then some (c.toNat - '0'.toNat) else none
  | none => none

def isDigit (x : Symbol) : Bool := (digitValue x).isSome

/-- The digits at the front, and the rest. -/
def digits (s : Symbols) : List Nat × Symbols :=
  ((s.takeWhile isDigit).filterMap digitValue, s.dropWhile isDigit)

/-- A number as written: the digits of its parts. -/
structure Literal where
  negative : Bool
  whole : List Nat
  fraction : Option (List Nat)
  exponent : Option (Bool × List Nat)

/-- The digits before the point: a zero stands alone. -/
def wholePart (s : Symbols) : Except Fault (Piece (List Nat)) :=
  match s with
  | [] => .error .ended
  | some '0' :: rest =>
      match rest with
      | x :: _ => if isDigit x then .error .malformed else .ok ([0], rest)
      | [] => .ok ([0], rest)
  | x :: _ => if isDigit x then .ok (digits s) else .error .malformed

/-- At least one digit. -/
def someDigits (s : Symbols) : Except Fault (Piece (List Nat)) :=
  match s with
  | [] => .error .ended
  | x :: _ => if isDigit x then .ok (digits s) else .error .malformed

def fractionPart (s : Symbols) : Except Fault (Piece (Option (List Nat))) :=
  match s with
  | some '.' :: rest => do
      let (ds, rest) ← someDigits rest
      .ok (some ds, rest)
  | _ => .ok (none, s)

/-- The sign of an exponent; true for a minus. -/
def exponentSign : Symbols → Bool × Symbols
  | some '+' :: rest => (false, rest)
  | some '-' :: rest => (true, rest)
  | s => (false, s)

def exponentPart (s : Symbols) : Except Fault (Piece (Option (Bool × List Nat))) :=
  match s with
  | some c :: rest =>
      if c = 'e' || c = 'E' then do
        let (negative, rest) := exponentSign rest
        let (ds, rest) ← someDigits rest
        .ok (some (negative, ds), rest)
      else .ok (none, s)
  | _ => .ok (none, s)

/-- The text of a number, from its sign on. -/
def literal (s : Symbols) : Except Fault (Piece Literal) := do
  let (negative, s) := match s with
    | some '-' :: rest => (true, rest)
    | _ => (false, s)
  let (whole, s) ← wholePart s
  let (fraction, s) ← fractionPart s
  let (exponent, s) ← exponentPart s
  .ok (⟨negative, whole, fraction, exponent⟩, s)

def decimalValue (ds : List Nat) : Nat := ds.foldl (fun n d => n * 10 + d) 0

/-- Exponents beyond this count as infinite. -/
def exponentBound : Nat := Nat.pow 2 31

/-- The double that a literal stands for; none if it is too large. -/
def Literal.float? (l : Literal) : Option Float := do
  let (significand, dropped) := Decimal.accumulate 0 l.whole
  let fraction := l.fraction.getD []
  let (significand, unread) := Decimal.accumulate significand fraction
  let point : Int := (dropped.length : Int) - ((fraction.length : Int) - (unread.length : Int))
  let size ← match l.exponent with
    | none => Decimal.scale? significand point
    | some (negative, ds) =>
        let e := decimalValue ds
        if exponentBound ≤ e then
          if significand = 0 || negative then some 0 else none
        else Decimal.scale? significand (if negative then point - e else point + e)
  pure (if l.negative then -size else size)

/-- An integer literal that fits is an integer; minus zero is a double. -/
def Literal.integer? (l : Literal) : Option Integer :=
  match l.fraction, l.exponent with
  | none, none =>
      let n : Int := decimalValue l.whole
      if l.negative then if n = 0 then none else Integer.ofInt? (-n)
      else Integer.ofInt? n
  | _, _ => none

def Literal.number? (l : Literal) : Option Number :=
  match l.integer? with
  | some i => some (.int i)
  | none => l.float?.map .float

/-- A number, from its sign on. -/
def number (s : Symbols) : Except Fault (Piece Number) := do
  let (l, rest) ← literal s
  match l.number? with
  | some n => .ok (n, rest)
  | none => .error .malformed

/-- Passes over the text of a number. A number cut short is malformed here. -/
def skipNumber (s : Symbols) : Except Fault Symbols :=
  match literal s with
  | .ok (_, rest) => .ok rest
  | .error _ => .error .malformed

end Scan

end CallBridge
