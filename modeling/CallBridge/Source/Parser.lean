import CallBridge.Source.Token

/-!
# Reading tokens

A parser takes tokens from the front of a list, or fails with a message. Questions about the next
tokens look at the list and take nothing.
-/

namespace CallBridge.Source

abbrev Parser := StateT (List Token) (Except String)

/-! ## Looking ahead -/

/-- Without its first token; a lifetime counts as one. -/
def skipOne : List Token → List Token
  | .mark '\'' true :: .ident _ :: rest => rest
  | _ :: rest => rest
  | [] => []

/-- What follows the marks `cs`; all but the last have to be joined to the next. -/
def afterMarks? : List Char → List Token → Option (List Token)
  | [], ts => some ts
  | [c], .mark d _ :: rest => if c = d then some rest else none
  | c :: cs, .mark d joint :: rest => if c = d && joint then afterMarks? cs rest else none
  | _ :: _, _ => none

def seesOp (s : String) (ts : List Token) : Bool := (afterMarks? s.toList ts).isSome

def seesWord (w : String) : List Token → Bool
  | .ident i :: _ => i.isWord w
  | _ => false

def seesAnyWord (ws : List String) (ts : List Token) : Bool := ws.any (seesWord · ts)

def seesName : List Token → Bool
  | .ident i :: _ => i.isName
  | _ => false

def seesIdent : List Token → Bool
  | .ident _ :: _ => true
  | _ => false

def seesLifetime : List Token → Bool
  | .mark '\'' true :: .ident _ :: _ => true
  | _ => false

def seesGroup (d : Delimiter) : List Token → Bool
  | .group e _ :: _ => d = e
  | _ => false

def seesBool (ts : List Token) : Bool := seesAnyWord ["true", "false"] ts

/-- A literal, a truth value, or a number with a minus sign. -/
def seesLiteral : List Token → Bool
  | .literal _ :: _ => true
  | .mark '-' _ :: .literal ⟨.int, _⟩ :: _ => true
  | .mark '-' _ :: .literal ⟨.float, _⟩ :: _ => true
  | ts => seesBool ts

namespace Parser

variable {α : Type}

/-- The answer to a question about the tokens ahead. -/
def look (question : List Token → α) : Parser α := do return question (← get)

/-- Fails with a message, which also says so if there are no tokens left. -/
def refuse (message : String) : Parser α := do
  if (← get).isEmpty then throw ("unexpected end of input, " ++ message) else throw message

/-- Runs a parser; if it fails, no token is taken. -/
def attempt (p : Parser α) : Parser (Option α) := fun ts =>
  match p ts with
  | .ok (a, rest) => .ok (some a, rest)
  | .error _ => .ok (none, ts)

/-- The tokens that a parser takes, as they are. -/
def verbatim (p : Parser α) : Parser (List Token) := fun ts =>
  match p ts with
  | .ok (_, rest) => .ok (ts.take (ts.length - rest.length), rest)
  | .error e => .error e

/-- Runs a parser that has to take all of `ts`. -/
def all (p : Parser α) (ts : List Token) : Except String α :=
  match p ts with
  | .ok (a, []) => .ok a
  | .ok (_, _ :: _) => .error "unexpected token"
  | .error e => .error e

/-- Runs a parser on what a group holds. -/
def inside (p : Parser α) (ts : List Token) : Parser α := fun rest =>
  match p.all ts with
  | .ok a => .ok (a, rest)
  | .error e => .error e

/-! ## Single tokens -/

def op (s : String) : Parser (List Token) := do
  match afterMarks? s.toList (← get) with
  | some rest => set rest; return Token.operator s
  | none => throw ("expected `" ++ s ++ "`")

/-- An operator or nothing. -/
def op? (s : String) : Parser (List Token) := do
  if ← look (seesOp s) then op s else return []

def word (w : String) : Parser (List Token) := do
  if ← look (seesWord w) then
    modify List.tail
    return [.word w]
  else refuse ("expected `" ++ w ++ "`")

def word? (w : String) : Parser (List Token) := do
  if ← look (seesWord w) then word w else return []

/-- An identifier that may be a keyword. -/
def identAny : Parser Ident := do
  match ← get with
  | .ident i :: rest => set rest; return i
  | _ => refuse "expected identifier"

def ident : Parser Ident := do
  match ← get with
  | .ident i :: rest =>
      if i.isName then
        set rest
        return i
      else if i.name = "_" then throw "expected identifier, found `_`"
      else throw ("expected identifier, found keyword `" ++ i.name ++ "`")
  | _ => refuse "expected identifier"

def lifetime : Parser (List Token) := do
  match ← get with
  | .mark '\'' true :: .ident i :: rest => set rest; return [.mark '\'' true, .ident i]
  | _ => refuse "expected lifetime"

def lifetime? : Parser (List Token) := do
  if ← look seesLifetime then lifetime else return []

def delimiterName : Delimiter → String
  | .paren => "parentheses"
  | .bracket => "square brackets"
  | .brace => "curly braces"

/-- The tokens of a group. -/
def group (d : Delimiter) : Parser (List Token) := do
  match ← get with
  | .group e inner :: rest =>
      if d = e then
        set rest
        return inner
      else refuse ("expected " ++ delimiterName d)
  | _ => refuse ("expected " ++ delimiterName d)

/-- A group with any brackets. -/
def anyGroup : Parser Token := do
  match ← get with
  | .group d inner :: rest => set rest; return .group d inner
  | _ => refuse "expected delimiter"

/-! ## Sequences -/

/-- Runs `step` until it says stop; each round gives tokens. -/
def rounds (step : Parser (List Token × Bool)) : Nat → Parser (List Token)
  | 0 => return []
  | fuel + 1 => do
      let (ts, more) ← step
      if more then return ts ++ (← rounds step fuel) else return ts

/-- As many rounds as there can be. -/
def repeated (step : Parser (List Token × Bool)) : Parser (List Token) := do
  rounds step (Token.sizeAll (← get) + 2)

/-- Items with commas between them up to the end of the tokens; the last comma may be missing. -/
def itemsUntil : Nat → Parser α → Parser (List α)
  | 0, _ => return []
  | fuel + 1, p => do
      if (← get).isEmpty then return []
      let a ← p
      if (← get).isEmpty then return [a]
      let _ ← op ","
      return a :: (← itemsUntil fuel p)

def items (p : Parser α) : Parser (List α) := do itemsUntil ((← get).length + 1) p

/-- Tokens of items, with the commas between them, up to the end. -/
def commaTokens (p : Parser (List Token)) : Parser (List Token) :=
  repeated do
    if (← get).isEmpty then return ([], false)
    let item ← p
    if (← get).isEmpty then return (item, false)
    return (item ++ (← op ","), true)

end Parser

end CallBridge.Source
