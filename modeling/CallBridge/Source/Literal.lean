import CallBridge.Source.Token
import CallBridge.Text.Blank
import CallBridge.Text.Digit
import CallBridge.Text.Identifier

/-!
# Literals in source text

Each reader takes the characters from where the literal would begin and returns what follows it,
or nothing if there is no such literal. A string literal also gives the text it stands for.
-/

namespace CallBridge.Source

open Text (hexDigit? isBlank isIdentifierStart isIdentifierPart)

/-- The characters of an identifier, and the rest. -/
def identifier? : List Char → Option (List Char × List Char)
  | [] => none
  | c :: rest =>
      if isIdentifierStart c then
        some (c :: rest.takeWhile isIdentifierPart, rest.dropWhile isIdentifierPart)
      else none

/-- Passes over a suffix, which is an identifier. -/
def skipSuffix (s : List Char) : List Char :=
  match identifier? s with
  | some (_, rest) => rest
  | none => s

/-- Passes over `word` if the text begins with it. -/
def after? : List Char → List Char → Option (List Char)
  | [], s => some s
  | _ :: _, [] => none
  | c :: cs, d :: rest => if c = d then after? cs rest else none

def startsWith (word : String) (s : List Char) : Bool := (after? word.toList s).isSome

/-! ## Quoted literals -/

/-- What a quoted literal may hold. -/
inductive Flavour where
  | text
  | bytes
  | cText
deriving DecidableEq

namespace Flavour

/-- The value of a two-digit escape, if it is allowed. -/
def ofHex (f : Flavour) (n : Nat) : Option Char :=
  match f with
  | .text => if n < 128 then some (Char.ofNat n) else none
  | .bytes => some (Char.ofNat n)
  | .cText => if n = 0 then none else some (Char.ofNat n)

def allows (f : Flavour) (c : Char) : Bool :=
  match f with
  | .text => true
  | .bytes => c.toNat < 128
  | .cText => c ≠ '\x00'

def hasCodePoints (f : Flavour) : Bool := f ≠ .bytes

end Flavour

/-- The digits of a code point up to the closing brace: at most six, with underscores after the
first. -/
def codePoint? (value count : Nat) : List Char → Option (Char × List Char)
  | [] => none
  | c :: rest =>
      match hexDigit? c with
      | some d => if count = 6 then none else codePoint? (value * 16 + d) (count + 1) rest
      | none =>
          if count = 0 then none
          else if c = '_' then codePoint? value count rest
          else if c = '}' then
            if value < 0xD800 || (0xDFFF < value && value < 0x110000) then
              some (Char.ofNat value, rest)
            else none
          else none

/-- What follows a backslash, other than a line end. -/
def escape? (f : Flavour) : List Char → Option (Char × List Char)
  | 'x' :: a :: b :: rest =>
      match hexDigit? a, hexDigit? b with
      | some a, some b => (f.ofHex (a * 16 + b)).map (·, rest)
      | _, _ => none
  | 'n' :: rest => some ('\n', rest)
  | 'r' :: rest => some ('\r', rest)
  | 't' :: rest => some ('\t', rest)
  | '\\' :: rest => some ('\\', rest)
  | '\'' :: rest => some ('\'', rest)
  | '"' :: rest => some ('"', rest)
  | '0' :: rest => if f = .cText then none else some ('\x00', rest)
  | 'u' :: '{' :: rest =>
      if f.hasCodePoints then
        match codePoint? 0 0 rest with
        | some (c, rest) => if f.allows c then some (c, rest) else none
        | none => none
      else none
  | _ => none

/-- The blanks after a line end that is escaped. A carriage return stands only before a line
feed. -/
def skipContinuation : List Char → Option (List Char)
  | [] => none
  | '\r' :: '\n' :: rest => skipContinuation rest
  | '\r' :: _ => none
  | c :: rest => if isBlank c then skipContinuation rest else some (c :: rest)

/-- The inside of a literal in double quotes, up to and with the closing quote. -/
def cooked? (f : Flavour) : Nat → List Char → Option (List Char × List Char)
  | 0, _ => none
  | _, [] => none
  | fuel + 1, c :: rest =>
      let more (c : Char) (rest : List Char) :=
        (cooked? f fuel rest).map fun (value, rest) => (c :: value, rest)
      match c, rest with
      | '"', rest => some ([], rest)
      | '\r', '\n' :: rest => more '\n' rest
      | '\r', _ => none
      | '\\', '\n' :: rest => (skipContinuation rest).bind (cooked? f fuel)
      | '\\', '\r' :: rest => (skipContinuation ('\r' :: rest)).bind (cooked? f fuel)
      | '\\', rest => (escape? f rest).bind fun (c, rest) => more c rest
      | c, rest => if f.allows c then more c rest else none

/-- The inside of a raw literal that `closing` ends. -/
def rawInside? (f : Flavour) (closing : List Char) : List Char → Option (List Char × List Char)
  | [] => none
  | c :: rest =>
      match after? closing (c :: rest) with
      | some rest => some ([], rest)
      | none =>
          if !f.allows c || (c = '\r' && rest.head? ≠ some '\n') then none
          else (rawInside? f closing rest).map fun (value, rest) => (c :: value, rest)

/-- A raw literal from its number signs on. -/
def raw? (f : Flavour) (s : List Char) : Option (List Char × List Char) :=
  let signs := s.takeWhile (· = '#')
  match s.dropWhile (· = '#') with
  | '"' :: rest => if signs.length ≤ 255 then rawInside? f ('"' :: signs) rest else none
  | _ => none

/-- A string literal of one flavour: after `opening` either quoted or, with an `r`, raw. -/
def quoted? (f : Flavour) (opening : List Char) (s : List Char) : Option (List Char × List Char) :=
  (after? opening s).bind fun
    | '"' :: rest => cooked? f (rest.length + 1) rest
    | 'r' :: rest => raw? f rest
    | _ => none

/-- One character in single quotes. -/
def character? (f : Flavour) (opening : List Char) (s : List Char) : Option (List Char) :=
  (after? opening s).bind fun
    | '\\' :: rest => (escape? f rest).bind fun (_, rest) => after? ['\''] rest
    | c :: '\'' :: rest => if f.allows c then some rest else none
    | _ => none

/-! ## Numbers -/

def isDigit (c : Char) : Bool := '0' ≤ c && c ≤ '9'

def isDigitOrLine (c : Char) : Bool := isDigit c || c = '_'

/-- A number ends with an optional suffix, and no more characters of an identifier. -/
def endNumber? (s : List Char) : Option (List Char) :=
  let rest := skipSuffix s
  match rest with
  | c :: _ => if isIdentifierPart c then none else some rest
  | [] => some []

/-- The exponent after its `e`, if it has a digit. -/
def exponent? (s : List Char) : Option (List Char) :=
  let afterSign := match s.dropWhile (· = '_') with
    | '+' :: rest => rest
    | '-' :: rest => rest
    | rest => rest
  let digits := afterSign.takeWhile isDigitOrLine
  if digits.any isDigit then some (afterSign.dropWhile isDigitOrLine) else none

/-- A number with a point or an exponent. After the point comes neither another point nor a name. -/
def float? (s : List Char) : Option (List Char) :=
  match s with
  | [] => none
  | c :: _ =>
      if !isDigit c then none
      else
        match s.dropWhile isDigitOrLine with
        | '.' :: rest =>
            match rest with
            | d :: _ =>
                if d = '.' || isIdentifierStart d then none
                else
                  match rest.dropWhile isDigitOrLine with
                  | e :: more =>
                      if e = 'e' || e = 'E' then endNumber? ((exponent? more).getD (e :: more))
                      else endNumber? (e :: more)
                  | [] => some []
            | [] => some []
        | e :: rest =>
            if e = 'e' || e = 'E' then (exponent? rest).bind endNumber? else none
        | [] => none

/-- The digits of an integer. A decimal digit that is too large for the base is an error, a letter
ends the digits. -/
def digits? (base : Nat) (some? : Bool) : List Char → Option (List Char)
  | [] => if some? then some [] else none
  | c :: rest =>
      if c = '_' then
        if !some? && base = 10 then none else digits? base some? rest
      else
        match hexDigit? c with
        | some d =>
            if d < base then digits? base true rest
            else if isDigit c then none
            else if some? then some (c :: rest) else none
        | none => if some? then some (c :: rest) else none

def int? (s : List Char) : Option (List Char) :=
  let afterDigits := match s with
    | '0' :: 'x' :: rest => digits? 16 false rest
    | '0' :: 'o' :: rest => digits? 8 false rest
    | '0' :: 'b' :: rest => digits? 2 false rest
    | s => digits? 10 false s
  afterDigits.bind endNumber?

/-! ## Any literal -/

/-- The literal at the head of the text, and the rest. -/
def literal? (s : List Char) : Option (Literal × List Char) :=
  let spelt (kind : LiteralKind) (rest : List Char) : Literal × List Char :=
    (⟨kind, String.ofList (s.take (s.length - rest.length))⟩, rest)
  match quoted? .text [] s with
  | some (value, rest) => some (spelt (.text (String.ofList value)) (skipSuffix rest))
  | none =>
  match quoted? .bytes ['b'] s with
  | some (_, rest) => some (spelt .bytes (skipSuffix rest))
  | none =>
  match quoted? .cText ['c'] s with
  | some (_, rest) => some (spelt .cText (skipSuffix rest))
  | none =>
  match character? .bytes ['b', '\''] s with
  | some rest => some (spelt .byte (skipSuffix rest))
  | none =>
  match character? .text ['\''] s with
  | some rest => some (spelt .char (skipSuffix rest))
  | none =>
  match float? s with
  | some rest => some (spelt .float rest)
  | none => (int? s).map (spelt .int)

end CallBridge.Source
