import CallBridge.Source.Pattern

/-!
# Expressions

Operators bind by their precedence. Statements inside a block are not looked into.
-/

namespace CallBridge.Source

namespace Precedence

def assign : Nat := 1
def range : Nat := 2
def compare : Nat := 5
def cast : Nat := 12

/-- The operators between two operands, those that begin with another one before it. -/
def binary : List (String × Nat) :=
  [("+=", assign), ("-=", assign), ("*=", assign), ("/=", assign), ("%=", assign), ("^=", assign),
    ("&=", assign), ("|=", assign), ("<<=", assign), (">>=", assign), ("&&", 4), ("||", 3),
    ("<<", 9), (">>", 9), ("==", compare), ("<=", compare), ("!=", compare), (">=", compare),
    ("+", 10), ("-", 10), ("*", 11), ("/", 11), ("%", 11), ("^", 7), ("&", 8), ("|", 6),
    ("<", compare), (">", compare)]

def binary? (ts : List Token) : Option (String × Nat) := binary.find? fun o => seesOp o.1 ts

/-- The precedence of what comes next, least if it is no operator. -/
def next (ts : List Token) : Nat :=
  match binary? ts with
  | some (_, p) => p
  | none =>
      if seesOp "=" ts && !seesOp "=>" ts then assign
      else if seesOp ".." ts then range
      else if seesWord "as" ts then cast
      else 0

end Precedence

namespace Parser

def other (kind : String) (tokens : List Token) : ExprForm := ⟨.other kind, tokens⟩

/-- The tokens of an expression. -/
def exprTokens (g : Grammar) (fields : Bool) : Parser (List Token) := do
  return (← g.expr fields).tokens

/-- Expressions with commas between them, in a group. -/
def exprList (g : Grammar) (d : Delimiter) : Parser Token := do
  let inner ← group d
  return .group d (← inside (commaTokens (exprTokens g true)) inner)

/-! ## Operands -/

def parenExpr (g : Grammar) : Parser ExprForm := do
  let inner ← group .paren
  if inner.isEmpty then return other "tuple" [.group .paren []]
  inside (do
    let first ← exprTokens g true
    if (← get).isEmpty then return other "paren" [.group .paren first]
    let comma ← op ","
    let more ← commaTokens (exprTokens g true)
    return other "tuple" [.group .paren (first ++ comma ++ more)]) inner

def bracketExpr (g : Grammar) : Parser ExprForm := do
  let inner ← group .bracket
  if inner.isEmpty then return other "array" [.group .bracket []]
  inside (do
    let first ← exprTokens g true
    if ← look (seesOp ";") then
      let semicolon ← op ";"
      let size ← exprTokens g true
      return other "repeat" [.group .bracket (first ++ semicolon ++ size)]
    if (← get).isEmpty then return other "array" [.group .bracket first]
    let comma ← op ","
    let more ← commaTokens (exprTokens g true)
    return other "array" [.group .bracket (first ++ comma ++ more)]) inner

def pathExpr (g : Grammar) (fields : Bool) : Parser ExprForm := do
  let q ← qualifiedPath g true
  let ts ← get
  if q.base.isNone && seesOp "!" ts && !seesOp "!=" ts && q.path.isPlain then
    let bang ← op "!"
    return other "macro" (q.tokens ++ bang ++ [← anyGroup])
  if fields && seesGroup .brace ts then return other "struct" (q.tokens ++ [← anyGroup])
  return ⟨.path q, q.tokens⟩

/-- The parameters of a closure up to the closing bar. -/
def closureParameters (g : Grammar) : Parser (List Token) :=
  repeated do
    if ← look (seesOp "|") then return ([], false)
    let attributes ← outerAttributes g
    let p ← verbatim g.pattern
    let annotated ←
      if ← look (seesOp ":") then pure ((← op ":") ++ (← g.type true).tokens) else pure []
    if ← look (seesOp "|") then return (attributes ++ p ++ annotated, false)
    return (attributes ++ p ++ annotated ++ (← op ","), true)

def closure (g : Grammar) (fields : Bool) : Parser ExprForm := do
  let lifetimes ← boundLifetimes?
  let const ← word? "const"
  let static ← word? "static"
  let async ← word? "async"
  let move ← word? "move"
  let opened ← op "|"
  let parameters ← closureParameters g
  let closed ← op "|"
  let head := lifetimes ++ const ++ static ++ async ++ move ++ opened ++ parameters ++ closed
  match ← returnType g true with
  | some t => return other "closure" (head ++ returnTokens (some t) ++ [← block g])
  | none => return other "closure" (head ++ (← exprTokens g fields))

/-- A word and the block after it. -/
def wordBlock (g : Grammar) (w kind : String) : Parser ExprForm := do
  let head ← word w
  return other kind (head ++ [← block g])

/-- A condition with its blocks. -/
def conditional (g : Grammar) : Nat → Parser (List Token)
  | 0 => return []
  | fuel + 1 => do
      let head ← word "if"
      let condition ← exprTokens g false
      let body ← block g
      let start := head ++ condition ++ [body]
      if ← look (seesWord "else") then
        let alternative ← word "else"
        if ← look (seesWord "if") then
          return start ++ alternative ++ (← conditional g fuel)
        return start ++ alternative ++ [← block g]
      return start

def loopExpr (g : Grammar) : Parser ExprForm := do
  let ts ← get
  if seesWord "while" ts then
    let head ← word "while"
    let condition ← exprTokens g false
    return other "while" (head ++ condition ++ [← block g])
  if seesWord "for" ts then
    let head ← word "for"
    let p ← verbatim (alternatives g)
    let middle ← word "in"
    let source ← exprTokens g false
    return other "for_loop" (head ++ p ++ middle ++ source ++ [← block g])
  if seesWord "loop" ts then wordBlock g "loop" "loop"
  else return other "block" [← block g]

/-- A word with an optional expression after it. -/
def jump (g : Grammar) (fields : Bool) (w : String) : Parser ExprForm := do
  let head ← word w
  let label ← if w = "return" || w = "yield" then pure [] else lifetime?
  let value ← if w = "continue" then pure none else attempt (exprTokens g fields)
  return other w (head ++ label ++ value.getD [])

/-- A range that has no lower end. -/
def lowerOpenRange (g : Grammar) (fields : Bool) : Parser ExprForm := do
  let dots ← if ← look (seesOp "..=") then op "..=" else op ".."
  return ⟨.range, dots ++ ((← attempt (exprTokens g fields)).getD [])⟩

def seesClosure (ts : List Token) : Bool :=
  let next := skipOne ts
  seesOp "|" ts || seesWord "move" ts || seesWord "static" ts ||
    (seesWord "for" ts && seesOp "<" next &&
      (seesLifetime (skipOne next) || seesOp ">" (skipOne next))) ||
    (seesWord "const" ts && !seesGroup .brace next) ||
    (seesWord "async" ts && (seesOp "|" next || seesWord "move" next))

def atom (g : Grammar) (fields : Bool) : Parser ExprForm := do
  let ts ← get
  let next := skipOne ts
  if seesLiteral ts then
    let l ← literal
    return ⟨.literal l, l.tokens⟩
  if seesWord "async" ts && seesGroup .brace next then wordBlock g "async" "async"
  else if seesWord "async" ts && seesWord "move" next && seesGroup .brace (skipOne next) then
    let head ← word "async"
    let move ← word "move"
    return other "async" (head ++ move ++ [← block g])
  else if seesWord "try" ts && seesGroup .brace next then wordBlock g "try" "try_block"
  else if seesClosure ts then closure g fields
  else if seesName ts || seesOp "::" ts || seesOp "<" ts ||
      seesAnyWord ["self", "Self", "super", "crate"] ts ||
      (seesWord "try" ts && (seesOp "!" next || seesOp "::" next)) then pathExpr g fields
  else if seesGroup .paren ts then parenExpr g
  else if seesWord "break" ts then jump g fields "break"
  else if seesWord "continue" ts then jump g fields "continue"
  else if seesWord "return" ts then jump g fields "return"
  else if seesWord "yield" ts then jump g fields "yield"
  else if seesGroup .bracket ts then bracketExpr g
  else if seesWord "let" ts then
    let head ← word "let"
    let p ← verbatim (alternatives g)
    let equals ← op "="
    return other "let" (head ++ p ++ equals ++ (← exprTokens g false))
  else if seesWord "if" ts then return other "if" (← conditional g (ts.length + 1))
  else if seesAnyWord ["while", "for", "loop"] ts then loopExpr g
  else if seesWord "match" ts then
    let head ← word "match"
    let scrutinee ← exprTokens g false
    return other "match" (head ++ scrutinee ++ [.group .brace (← group .brace)])
  else if seesWord "unsafe" ts then wordBlock g "unsafe" "unsafe"
  else if seesWord "const" ts then wordBlock g "const" "const"
  else if seesGroup .brace ts then return other "block" [← block g]
  else if seesOp ".." ts then lowerOpenRange g fields
  else if seesWord "_" ts then return other "infer" (← word "_")
  else if seesLifetime ts then
    let label ← lifetime
    let colon ← op ":"
    let e ← loopExpr g
    return { e with tokens := label ++ colon ++ e.tokens }
  else refuse "expected an expression"

/-! ## Calls, fields and indices -/

/-- What follows a dot: a field, a method call, or the word `await`. -/
def member (g : Grammar) (e : ExprForm) : Parser ExprForm := do
  let dot ← op "."
  match ← get with
  | .literal l :: rest =>
      if l.kind = .int || l.kind = .float then
        set rest
        return other "field" (e.tokens ++ dot ++ [.literal l])
      else refuse "expected identifier"
  | ts =>
      if seesWord "await" ts then return other "await" (e.tokens ++ dot ++ (← word "await"))
      let i ← ident
      let head := e.tokens ++ dot ++ [.ident i]
      let turbofish ←
        if ← look (seesOp "::") then pure (← angledArguments g (bound g)).tokens else pure []
      if !turbofish.isEmpty || (← look (seesGroup .paren)) then
        return other "method_call" (head ++ turbofish ++ [← exprList g .paren])
      return other "field" head

def trailers (g : Grammar) : Nat → ExprForm → Parser ExprForm
  | 0, e => return e
  | fuel + 1, e => do
      let ts ← get
      if seesGroup .paren ts then
        trailers g fuel (other "call" (e.tokens ++ [← exprList g .paren]))
      else if seesOp "." ts && !seesOp ".." ts && !e.shape.isRange then
        trailers g fuel (← member g e)
      else if seesGroup .bracket ts then
        let index ← inside (exprTokens g true) (← group .bracket)
        trailers g fuel (other "index" (e.tokens ++ [.group .bracket index]))
      else if seesOp "?" ts && !e.shape.isRange then
        trailers g fuel (other "try" (e.tokens ++ (← op "?")))
      else return e

/-! ## Operators -/

/-- An operand with the operators in front of it. -/
def unary (g : Grammar) (fields : Bool) : Nat → Parser ExprForm
  | 0 => throw "too deep"
  | fuel + 1 => do
      let attributes ← outerAttributes g
      let ts ← get
      if seesOp "&" ts then
        let sign ← op "&"
        let next ← get
        let raw := seesWord "raw" next && seesAnyWord ["mut", "const"] (skipOne next)
        let kind ←
          if raw then
            let head ← word "raw"
            if ← look (seesWord "mut") then pure (head ++ (← word "mut"))
            else pure (head ++ (← word "const"))
          else word? "mut"
        let e ← unary g fields fuel
        return other (if raw then "unknown" else "reference")
          (attributes ++ sign ++ kind ++ e.tokens)
      if seesOp "*" ts || seesOp "!" ts || seesOp "-" ts then
        let sign ← if seesOp "*" ts then op "*" else if seesOp "!" ts then op "!" else op "-"
        let e ← unary g fields fuel
        return other "unary" (attributes ++ sign ++ e.tokens)
      let e ← atom g fields
      let e ← trailers g (ts.length + 1) e
      return { e with tokens := attributes ++ e.tokens }

mutual

/-- Goes on from a left operand, with operators that bind no less than `base`. -/
def climb (g : Grammar) (fields : Bool) : Nat → ExprForm → Nat → Parser ExprForm
  | 0, lhs, _ => return lhs
  | fuel + 1, lhs, base => do
      let ts ← get
      if lhs.shape.isRange then return lhs
      match Precedence.binary? ts with
      | some (o, p) =>
          if p < base then return lhs
          if p = Precedence.compare && lhs.shape.isComparison then
            refuse "comparison operators cannot be chained"
          let sign ← op o
          let rhs ← operand g fields fuel p
          let shape : ExprShape := if p = Precedence.compare then .comparison else .other "binary"
          climb g fields fuel ⟨shape, lhs.tokens ++ sign ++ rhs.tokens⟩ base
      | none =>
          if base ≤ Precedence.assign && seesOp "=" ts && !seesOp "=>" ts then
            let sign ← op "="
            let rhs ← operand g fields fuel Precedence.assign
            climb g fields fuel (other "assign" (lhs.tokens ++ sign ++ rhs.tokens)) base
          else if base ≤ Precedence.range && seesOp ".." ts then
            let dots ← if seesOp "..=" ts then op "..=" else op ".."
            let upper ← attempt (operand g fields fuel Precedence.range)
            climb g fields fuel
              ⟨.range, lhs.tokens ++ dots ++ (upper.map (·.tokens)).getD []⟩ base
          else if base ≤ Precedence.cast && seesWord "as" ts then
            let sign ← word "as"
            let t ← g.type false
            climb g fields fuel (other "cast" (lhs.tokens ++ sign ++ t.tokens)) base
          else return lhs

/-- The right operand of an operator. -/
def operand (g : Grammar) (fields : Bool) : Nat → Nat → Parser ExprForm
  | 0, _ => throw "too deep"
  | fuel + 1, p => do
      let e ← unary g fields ((← get).length + 1)
      stronger g fields fuel e p

/-- Lets the operators that bind more than `p` take their part first. -/
def stronger (g : Grammar) (fields : Bool) : Nat → ExprForm → Nat → Parser ExprForm
  | 0, e, _ => return e
  | fuel + 1, e, p => do
      let next := Precedence.next (← get)
      if p < next || (p = next && p = Precedence.assign) then
        let before := (← get).length
        let e ← climb g fields fuel e next
        if (← get).length = before then return e
        stronger g fields fuel e p
      else return e

end

def expr (g : Grammar) (fields : Bool) : Parser ExprForm := do
  let size := (← get).length
  let e ← unary g fields (size + 1)
  climb g fields (3 * size + 3) e 0

end Parser

end CallBridge.Source
