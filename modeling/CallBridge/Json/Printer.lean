import CallBridge.Decimal.Shortest
import CallBridge.Json.Basic

/-!
# Writing JSON

Two layouts: compact, without any blank, and pretty, with one element a line and two spaces per
level. Only `"`, `\` and the characters below the space are escaped. A double is written with the
fewest digits that read back, positionally while the exponent of its first digit lies between
`-5` and `15`, and otherwise with a signed exponent; what is not finite is written as `null`.
-/

namespace CallBridge.Json

inductive Layout where
  | compact
  | pretty
deriving DecidableEq

/-- The break before an element at nesting level `level`. -/
def Layout.newline : Layout → Nat → List Char
  | .compact, _ => []
  | .pretty, level => '\n' :: List.replicate (2 * level) ' '

/-- What stands between a key and its value. -/
def Layout.colon : Layout → List Char
  | .compact => [':']
  | .pretty => [':', ' ']

def hexDigit (n : Nat) : Char := Nat.digitChar (n % 16)

/-- A character as it stands between quotes. -/
def escape (c : Char) : List Char :=
  if c = '"' then ['\\', '"']
  else if c = '\\' then ['\\', '\\']
  else if 0x20 ≤ c.toNat then [c]
  else if c = '\x08' then ['\\', 'b']
  else if c = '\t' then ['\\', 't']
  else if c = '\n' then ['\\', 'n']
  else if c = '\x0c' then ['\\', 'f']
  else if c = '\r' then ['\\', 'r']
  else ['\\', 'u', '0', '0', hexDigit (c.toNat / 16), hexDigit c.toNat]

def quoted (s : String) : List Char := '"' :: s.toList.flatMap escape ++ ['"']

def positional (d : Decimal.Digits) : List Char :=
  match d.exponent with
  | .ofNat x =>
      if d.digits.length ≤ x + 1 then
        d.digits ++ List.replicate (x + 1 - d.digits.length) '0' ++ ['.', '0']
      else d.digits.take (x + 1) ++ '.' :: d.digits.drop (x + 1)
  | .negSucc x => '0' :: '.' :: List.replicate x '0' ++ d.digits

def scientific (d : Decimal.Digits) : List Char :=
  let point := match d.digits with
    | first :: second :: rest => first :: '.' :: second :: rest
    | single => single
  let sign := if d.exponent < 0 then '-' else '+'
  point ++ 'e' :: sign :: Nat.toDigits 10 d.exponent.natAbs

def floatText (x : Float) : List Char :=
  if x.isNaN || x.isInf then ['n', 'u', 'l', 'l']
  else
    let bits := x.toBits.toNat
    let size := bits % Nat.pow 2 63
    let unsigned :=
      if size = 0 then ['0', '.', '0']
      else
        let d := (Decimal.Binary.ofBits size).shortest
        if -5 ≤ d.exponent && d.exponent ≤ 15 then positional d else scientific d
    if Nat.pow 2 63 ≤ bits then '-' :: unsigned else unsigned

def intText : Int → List Char
  | .ofNat n => Nat.toDigits 10 n
  | .negSucc n => '-' :: Nat.toDigits 10 (n + 1)

def numberText : Number → List Char
  | .int i => intText i.val
  | .float x => floatText x

mutual

/-- The text of a value that stands at nesting level `level`. -/
def render (layout : Layout) (level : Nat) : Json → List Char
  | .null => ['n', 'u', 'l', 'l']
  | .bool true => ['t', 'r', 'u', 'e']
  | .bool false => ['f', 'a', 'l', 's', 'e']
  | .number n => numberText n
  | .string s => quoted s
  | .array [] => ['[', ']']
  | .array (v :: rest) =>
      '[' :: layout.newline (level + 1) ++ render layout (level + 1) v
        ++ renderItems layout (level + 1) rest ++ layout.newline level ++ [']']
  | .object [] => ['{', '}']
  | .object ((k, v) :: rest) =>
      '{' :: layout.newline (level + 1) ++ quoted k ++ layout.colon ++ render layout (level + 1) v
        ++ renderMembers layout (level + 1) rest ++ layout.newline level ++ ['}']

/-- The elements after the first, each with its comma. -/
def renderItems (layout : Layout) (level : Nat) : List Json → List Char
  | [] => []
  | v :: rest =>
      ',' :: layout.newline level ++ render layout level v ++ renderItems layout level rest

/-- The members after the first, each with its comma. -/
def renderMembers (layout : Layout) (level : Nat) : List (String × Json) → List Char
  | [] => []
  | (k, v) :: rest =>
      ',' :: layout.newline level ++ quoted k ++ layout.colon ++ render layout level v
        ++ renderMembers layout level rest

end

def print (layout : Layout) (v : Json) : String := String.ofList (render layout 0 v)

def compact (v : Json) : String := print .compact v

end CallBridge.Json
