import CallBridge.Source.Form

/-!
# Paths

In a type the arguments of a segment follow it directly, in an expression after `::`.
-/

namespace CallBridge.Source

namespace Parser

/-- A path of plain names, as modules have. -/
def plainPath : Parser Path := do
  let leading ← op? "::"
  let segments ← plainSegments ((← get).length + 1)
  if segments.isEmpty then
    let _ ← ident
  return ⟨!leading.isEmpty, segments⟩
where
  plainSegments : Nat → Parser (List Segment)
    | 0 => return []
    | fuel + 1 => do
        let ts ← get
        if !(seesName ts || seesAnyWord ["super", "self", "Self", "crate"] ts) then return []
        let s : Segment := { ident := ← identAny }
        if !(← look (seesOp "::")) then return [s]
        let _ ← op "::"
        let rest ← plainSegments fuel
        if rest.isEmpty then refuse "expected path segment after `::`"
        return s :: rest

/-- The content of a block. One expression is written anew, anything else is kept. -/
def blockTokens (g : Grammar) (inner : List Token) : Token :=
  match (g.expr true).all inner with
  | .ok e => .group .brace e.tokens
  | .error _ => .group .brace inner

def block (g : Grammar) : Parser Token := do return blockTokens g (← group .brace)

/-- A constant as a generic argument. -/
def constant (g : Grammar) : Parser (List Token) := do
  let ts ← get
  if seesLiteral ts then return (← literal).tokens
  else if seesName ts then return [.ident (← ident)]
  else if seesGroup .brace ts then return [← block g]
  else refuse "expected a constant"

/-! ## Bounds -/

/-- The lifetimes that `for` introduces, or nothing. -/
def boundLifetimes? : Parser (List Token) := do
  if ← look (seesWord "for") then
    let head ← word "for"
    let opened ← op "<"
    let inside ← repeated do
      if ← look (seesOp ">") then return ([], false)
      let l ← lifetime
      if ← look (seesOp ">") then return (l, false)
      return (l ++ (← op ","), true)
    return head ++ opened ++ inside ++ (← op ">")
  else return []

/-- The result type of a function; it may be asked not to take `+`. -/
def returnType (g : Grammar) (plus : Bool) : Parser (Option TypeForm) := do
  if ← look (seesOp "->") then
    let _ ← op "->"
    return some (← g.type plus)
  else return none

def returnTokens : Option TypeForm → List Token
  | none => []
  | some t => Token.operator "->" ++ t.tokens

/-- Arguments as those of a function trait. -/
def calledArguments (g : Grammar) : Parser Arguments := do
  let inner ← group .paren
  let types ← inside (commaTokens do return (← g.type true).tokens) inner
  return .called (.group .paren types :: returnTokens (← returnType g false))

/-- Gives the path arguments as those of a function trait, if they come next. -/
def calledPath (g : Grammar) (p : Path) : Parser Path := do
  let ts ← get
  let here := seesGroup .paren ts || (seesOp "::" ts && seesGroup .paren (skipOne (skipOne ts)))
  if p.lastHasNoArguments && here then
    let _ ← op? "::"
    return p.withArguments (← calledArguments g)
  else return p

/-! ## Generic arguments -/

/-- A generic argument and whether it is a lifetime. -/
structure GenericArgument where
  isLifetime : Bool := false
  tokens : List Token

/-- Bounds with `+` between them up to a comma or the closing bracket. -/
def constraintBounds (bound : Parser (List Token)) : Parser (List Token) :=
  repeated do
    let ts ← get
    if seesOp "," ts || seesOp ">" ts then return ([], false)
    let b ← bound
    if ← look (seesOp "+") then return (b ++ (← op "+"), true)
    return (b, false)

/-- Whether a type can be the name that `=` or `:` gives something to. -/
def isAssociatedName (t : TypeForm) : Bool :=
  match t.shape with
  | .path ⟨none, ⟨false, [s]⟩⟩ => !s.arguments.isCalled
  | _ => false

def genericArgument (g : Grammar) (bound : Parser (List Token)) : Parser GenericArgument := do
  let ts ← get
  if seesLifetime ts && !seesOp "+" (skipOne ts) then return ⟨true, ← lifetime⟩
  if seesLiteral ts || seesGroup .brace ts then return ⟨false, ← constant g⟩
  let t ← g.type true
  if isAssociatedName t then
    if ← look (seesOp "=") then
      let equals ← op "="
      let ts ← get
      let value ←
        if seesLiteral ts || seesGroup .brace ts then constant g
        else pure (← g.type true).tokens
      return ⟨false, t.tokens ++ equals ++ value⟩
    if ← look (seesOp ":") then
      let colon ← op ":"
      return ⟨false, t.tokens ++ colon ++ (← constraintBounds bound)⟩
  return ⟨false, t.tokens⟩

/-- Arguments up to the closing bracket; each with whether a comma follows. -/
def genericArguments (g : Grammar) (bound : Parser (List Token)) :
    Nat → Parser (List (GenericArgument × Bool))
  | 0 => return []
  | fuel + 1 => do
      if ← look (seesOp ">") then return []
      let a ← genericArgument g bound
      if ← look (seesOp ">") then return [(a, false)]
      let _ ← op ","
      return (a, true) :: (← genericArguments g bound fuel)

/-- Lifetimes are written before all other arguments. A comma goes where one is missing. -/
def orderedArguments (arguments : List (GenericArgument × Bool)) : List Token :=
  let (first, others) := arguments.partition (·.1.isLifetime)
  write true (first ++ others)
where
  write (separated : Bool) : List (GenericArgument × Bool) → List Token
    | [] => []
    | (a, comma) :: rest =>
        (if separated || a.isLifetime then [] else Token.operator ",") ++ a.tokens ++
          (if comma then Token.operator "," else []) ++ write comma rest

/-- Arguments in angle brackets. -/
def angledArguments (g : Grammar) (bound : Parser (List Token)) : Parser Arguments := do
  let colons ← op? "::"
  let opened ← op "<"
  let arguments ← genericArguments g bound ((← get).length + 1)
  return .angled (colons ++ opened ++ orderedArguments arguments ++ (← op ">"))

/-! ## Segments -/

def segment (g : Grammar) (bound : Parser (List Token)) (inExpr : Bool) : Parser Segment := do
  if seesAnyWord ["super", "self", "crate", "try"] (← get) then return { ident := ← identAny }
  let i ← if ← look (seesWord "Self") then identAny else ident
  let ts ← get
  let direct := !inExpr && seesOp "<" ts && !seesOp "<=" ts && !seesOp "<<=" ts
  let afterColons := seesOp "::" ts && seesOp "<" (skipOne (skipOne ts))
  if direct || afterColons then return ⟨i, ← angledArguments g bound⟩
  return { ident := i }

def moreSegments (g : Grammar) (bound : Parser (List Token)) (inExpr : Bool) :
    Nat → Parser (List Segment)
  | 0 => return []
  | fuel + 1 => do
      let ts ← get
      if seesOp "::" ts && !seesGroup .paren (skipOne (skipOne ts)) then
        let _ ← op "::"
        let s ← segment g bound inExpr
        return s :: (← moreSegments g bound inExpr fuel)
      else return []

/-- A path with generic arguments given a parser for bounds. -/
def pathWith (g : Grammar) (bound : Parser (List Token)) (inExpr : Bool) : Parser Path := do
  let leading ← op? "::"
  let first ← segment g bound inExpr
  let rest ← moreSegments g bound inExpr ((← get).length + 1)
  return ⟨!leading.isEmpty, first :: rest⟩

/-! ## Bounds again -/

/-- What a bound may be besides a trait. -/
structure BoundForm where
  isTrait : Bool
  tokens : List Token

/-- The names that a bound `use<...>` captures. -/
def captures : Parser (List Token) := do
  let head ← word "use"
  let opened ← op "<"
  let inside ← repeated do
    if ← look (seesOp ">") then return ([], false)
    let item ← if ← look seesLifetime then lifetime else pure [Token.ident (← identAny)]
    if ← look (seesOp ">") then return (item, false)
    return (item ++ (← op ","), true)
  return head ++ opened ++ inside ++ (← op ">")

/-- A trait bound given a parser for the bounds inside its arguments. -/
def traitBound (g : Grammar) (bound : Parser (List Token)) : Parser (List Token) := do
  let lifetimes ← boundLifetimes?
  let ts ← get
  let const ←
    if seesOp "~" ts then pure ((← op "~") ++ (← word "const"))
    else word? "const"
  let maybe ← op? "?"
  let p ← pathWith g bound false
  let p ← calledPath g p
  return const ++ maybe ++ lifetimes ++ p.tokens

/-- One bound: a lifetime, captured names if they are allowed, or a trait, perhaps in
parentheses. -/
def boundForm (g : Grammar) (capturing : Bool) : Nat → Parser BoundForm
  | 0 => throw "too deep"
  | fuel + 1 => do
      let ts ← get
      let inner : Parser (List Token) := do return (← boundForm g false fuel).tokens
      if seesLifetime ts then return ⟨false, ← lifetime⟩
      if seesWord "use" ts then
        let names ← captures
        if capturing then return ⟨false, names⟩
        else throw "`use<...>` precise capturing syntax is not allowed here"
      if seesGroup .paren ts then
        let content ← group .paren
        return ⟨true, [.group .paren (← inside (traitBound g inner) content)]⟩
      return ⟨true, ← traitBound g inner⟩

def bound (g : Grammar) : Parser (List Token) := do
  return (← boundForm g false (Token.sizeAll (← get) + 2)).tokens

def path (g : Grammar) (inExpr : Bool) : Parser Path := pathWith g (bound g) inExpr

/-- Whether another bound can follow a `+`. -/
def seesBound (ts : List Token) : Bool :=
  seesIdent ts || seesOp "::" ts || seesOp "?" ts || seesLifetime ts || seesGroup .paren ts ||
    seesOp "~" ts

/-- Bounds with `+` between them, at least one; there may be a `+` at the end. -/
def bounds (g : Grammar) (plus capturing : Bool) : Parser (List BoundForm) := do
  boundsUpTo g plus capturing ((← get).length + 1)
where
  boundsUpTo (g : Grammar) (plus capturing : Bool) : Nat → Parser (List BoundForm)
    | 0 => return []
    | fuel + 1 => do
        let b ← boundForm g capturing (Token.sizeAll (← get) + 2)
        if plus && (← look (seesOp "+")) then
          let sum ← op "+"
          let b := { b with tokens := b.tokens ++ sum }
          if ← look seesBound then return b :: (← boundsUpTo g plus capturing fuel)
          return [b]
        return [b]

/-! ## Qualified paths -/

def qualifiedSegments (g : Grammar) (inExpr : Bool) : Nat → Parser (List Segment)
  | 0 => return []
  | fuel + 1 => do
      let s ← segment g (bound g) inExpr
      if ← look (seesOp "::") then
        let _ ← op "::"
        return s :: (← qualifiedSegments g inExpr fuel)
      return [s]

def qualifiedPath (g : Grammar) (inExpr : Bool) : Parser QualifiedPath := do
  if ← look (seesOp "<") then
    let _ ← op "<"
    let self ← g.type true
    let trait ←
      if ← look (seesWord "as") then
        let _ ← word "as"
        pure (some (← path g false))
      else pure none
    let _ ← op ">"
    let _ ← op "::"
    let rest ← qualifiedSegments g inExpr ((← get).length + 1)
    match trait with
    | some p =>
        return ⟨some (self.tokens, p.segments.length), { p with segments := p.segments ++ rest }⟩
    | none => return ⟨some (self.tokens, 0), ⟨true, rest⟩⟩
  else return { path := ← path g inExpr }

end Parser

end CallBridge.Source
