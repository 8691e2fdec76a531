import CallBridge.Source.Attribute

/-!
# Types
-/

namespace CallBridge.Source

namespace Parser

/-- The words that a path can begin with although they are keywords. -/
def pathWords : List String := ["super", "self", "Self", "crate"]

/-! ## Bare functions -/

def abi? : Parser (List Token) := do
  if ← look (seesWord "extern") then
    let head ← word "extern"
    match ← get with
    | .literal l :: rest =>
        match l.kind with
        | .text _ => set rest; return head ++ [.literal l]
        | _ => return head
    | _ => return head
  else return []

/-- Whether a name and a colon come next. -/
def seesNamed (receiver : Bool) (ts : List Token) : Bool :=
  (seesName ts || seesWord "_" ts || (receiver && seesWord "self" ts)) &&
    seesOp ":" (skipOne ts) && !seesOp "::" (skipOne ts)

/-- A parameter of a bare function: a type, perhaps with a name; the first one may be a receiver. -/
def bareParameter (g : Grammar) (first : Bool) : Parser (List Token) := do
  let ts ← get
  if first && seesWord "mut" ts && seesWord "self" (skipOne ts) then
    verbatim do
      let _ ← word "mut"
      let _ ← word "self"
      if seesOp ":" (← get) && !seesOp "::" (← get) then
        let _ ← op ":"
        let _ ← g.type true
  else
    let name ←
      if seesNamed first ts then pure ([Token.ident (← identAny)] ++ (← op ":"))
      else pure []
    return name ++ (← g.type true).tokens

def seesVariadic (ts : List Token) : Bool :=
  seesOp "..." ts ||
    ((seesName ts || seesWord "_" ts) && seesOp ":" (skipOne ts) &&
      seesOp "..." (skipOne (skipOne ts)))

def bareParameters (g : Grammar) (first : Bool) : Nat → Parser (List Token)
  | 0 => return []
  | fuel + 1 => do
      if (← get).isEmpty then return []
      let attributes ← outerAttributes g
      if ← look seesVariadic then
        let name ←
          if ← look (seesOp "...") then pure []
          else pure ([Token.ident (← identAny)] ++ (← op ":"))
        let dots ← op "..."
        if (← get).isEmpty then return attributes ++ name ++ dots
        return attributes ++ name ++ dots ++ (← op ",")
      let p ← bareParameter g first
      if (← get).isEmpty then return attributes ++ p
      let comma ← op ","
      return attributes ++ p ++ comma ++ (← bareParameters g false fuel)

def bareFunction (g : Grammar) : Parser (List Token) := do
  let unsafety ← word? "unsafe"
  let abi ← abi?
  let head ← word "fn"
  let inner ← group .paren
  let parameters ← inside (bareParameters g true (inner.length + 1)) inner
  return unsafety ++ abi ++ head ++ [.group .paren parameters] ++
    returnTokens (← returnType g false)

/-! ## Bounds as types -/

def boundsTokens (bs : List BoundForm) : List Token := bs.flatMap (·.tokens)

/-- Bounds of which one has to be a trait. -/
def traitBounds (g : Grammar) (plus capturing : Bool) : Parser (List BoundForm) := do
  let bs ← bounds g plus capturing
  if bs.any (·.isTrait) then return bs
  else throw "at least one trait is required for an object type"

/-- Further bounds, each after a `+`. -/
def addedBounds (g : Grammar) : Parser (List Token) :=
  repeated do
    if ← look (seesOp "+") then
      let plus ← op "+"
      return (plus ++ (← bound g), true)
    else return ([], false)

/-- Further bounds, each after a `+`; the last `+` may stand alone. -/
def openBounds (g : Grammar) : Parser (List Token) :=
  repeated do
    if ← look (seesOp "+") then
      let plus ← op "+"
      if ← look seesBound then return (plus ++ (← bound g), true)
      return (plus, false)
    else return ([], false)

/-! ## Types in parentheses -/

def isBoundLike (t : TypeForm) : Bool :=
  match t.shape with
  | .path q => q.base.isNone
  | .bounds single => single
  | _ => false

/-- What stands in the parentheses: its tokens, and the type if it is just one. -/
def parenthesized (g : Grammar) : Parser (List Token × Option TypeForm) := do
  let ts ← get
  if seesLifetime ts then
    let bs ← traitBounds g true false
    return (boundsTokens bs, some ⟨.other, boundsTokens bs⟩)
  let first ← g.type true
  if ← look (seesOp ",") then
    let comma ← op ","
    return (first.tokens ++ comma ++ (← commaTokens do return (← g.type true).tokens), none)
  return (first.tokens, some first)

def parenType (g : Grammar) (plus : Bool) : Parser TypeForm := do
  let inner ← group .paren
  if inner.isEmpty then return ⟨.unit, [.group .paren []]⟩
  if seesOp "?" inner then
    let b ← inside (traitBound g (bound g)) inner
    return ⟨.bounds false, .group .paren b :: (← addedBounds g)⟩
  let (tokens, single) ← inside (parenthesized g) inner
  let this := [Token.group .paren tokens]
  if plus && (← look (seesOp "+")) && single.any isBoundLike then
    return ⟨.bounds false, this ++ (← addedBounds g)⟩
  return ⟨.other, this⟩

/-! ## Any type -/

/-- A type that is a path, the call of a macro, or bounds that begin with a path. -/
def pathType (g : Grammar) (plus : Bool) (lifetimes : List Token) : Parser TypeForm := do
  let q ← qualifiedPath g false
  let p ← calledPath g q.path
  let q := { q with path := p }
  if q.base.isSome then return ⟨.path q, q.tokens⟩
  let ts ← get
  if seesOp "!" ts && !seesOp "!=" ts && p.isPlain then
    let bang ← op "!"
    return ⟨.other, p.tokens ++ bang ++ [← anyGroup]⟩
  if !lifetimes.isEmpty || (plus && seesOp "+" ts) then
    let more ← if plus then openBounds g else pure []
    return ⟨.bounds more.isEmpty, lifetimes ++ p.tokens ++ more⟩
  return ⟨.path q, q.tokens⟩

def arrayOrSlice (g : Grammar) : Parser (List Token) := do
  let element ← g.type true
  if ← look (seesOp ";") then
    let semicolon ← op ";"
    return element.tokens ++ semicolon ++ (← g.expr true).tokens
  return element.tokens

def pointer (g : Grammar) : Parser (List Token) := do
  let star ← op "*"
  let kind ← if ← look (seesWord "const") then word "const" else word "mut"
  return star ++ kind ++ (← g.type false).tokens

def reference (g : Grammar) : Parser (List Token) := do
  let sign ← op "&"
  let l ← lifetime?
  let mutability ← word? "mut"
  return sign ++ l ++ mutability ++ (← g.type false).tokens

def type (g : Grammar) (plus : Bool) : Parser TypeForm := do
  let lifetimes ← boundLifetimes?
  let ts ← get
  let isPath := seesName ts || seesAnyWord pathWords ts
  let isBare := seesAnyWord ["fn", "unsafe", "extern"] ts
  if !lifetimes.isEmpty && !(isPath || isBare) then throw "expected a trait or a function"
  if seesGroup .paren ts then parenType g plus
  else if isBare then return { tokens := lifetimes ++ (← bareFunction g) }
  else if isPath || seesOp "::" ts || seesOp "<" ts then pathType g plus lifetimes
  else if seesWord "dyn" ts then
    let head ← word "dyn"
    let star ← op? "*"
    let bs ← traitBounds g plus false
    return { tokens := head ++ star ++ boundsTokens bs }
  else if seesGroup .bracket ts then
    let inner ← group .bracket
    return { tokens := [.group .bracket (← inside (arrayOrSlice g) inner)] }
  else if seesOp "*" ts then return { tokens := ← pointer g }
  else if seesOp "&" ts then return { tokens := ← reference g }
  else if seesOp "!" ts && !seesOp "=" ts then return { tokens := ← op "!" }
  else if seesWord "impl" ts then
    let head ← word "impl"
    return { tokens := head ++ boundsTokens (← traitBounds g plus true) }
  else if seesWord "_" ts then return { tokens := ← word "_" }
  else if seesLifetime ts then
    let bs ← traitBounds g true false
    return ⟨.bounds (bs.length = 1), boundsTokens bs⟩
  else refuse "expected a type"

end Parser

end CallBridge.Source
