import CallBridge.Json.Reader
import CallBridge.Text.Quoted

/-!
# Call tokens

A token links a return to the call it completes. A peer may use numbers or texts; a token is given
back in the form in which it came, so a number token keeps the canonical text of its number.
Tokens of this side are texts made of an epoch and a running count.
-/

namespace CallBridge

inductive CallId where
  | number (text : String)
  | text (text : String)
deriving DecidableEq

namespace CallId

def display : CallId → String
  | .number s => s
  | .text s => s

def describe : CallId → String
  | .number s => "Number(" ++ Text.quoted s ++ ")"
  | .text s => "Text(" ++ Text.quoted s ++ ")"

def ofNat (n : Nat) : CallId := .number (String.ofList (Nat.toDigits 10 n))

/-- A number token whose text is no number is written as a text. -/
def toJson : CallId → Json
  | .number s =>
      match Json.parseNumber? s with
      | some n => .number n
      | none => .string s
  | .text s => .string s

def ofJson? : Json → Option CallId
  | .number n => some (.number (String.ofList (Json.numberText n)))
  | .string s => some (.text s)
  | _ => none

/-- Why a value is no token. -/
def refusal (v : Json) : Mismatch :=
  .refused ("call token must be a string or number, got " ++ v.compact)

end CallId

/-- Where tokens come from: a fixed epoch and the number of tokens issued so far. -/
structure TokenSource where
  epoch : Nat
  issued : UInt64 := 0

namespace TokenSource

/-- The token of the call with number `count`. -/
def token (epoch : Nat) (count : UInt64) : CallId :=
  .text (String.ofList (Nat.toDigits 10 epoch ++ '.' :: Nat.toDigits 10 count.toNat))

def peek (s : TokenSource) : CallId := token s.epoch s.issued

def advance (s : TokenSource) : TokenSource := { s with issued := s.issued + 1 }

/-- The next `n` tokens, and the source after them. -/
def take : Nat → TokenSource → List CallId × TokenSource
  | 0, s => ([], s)
  | n + 1, s =>
      let (ids, last) := take n s.advance
      (s.peek :: ids, last)

end TokenSource

end CallBridge
