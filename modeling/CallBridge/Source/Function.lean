import CallBridge.Source.Grammar

/-!
# Function items

A free function as it is written: visibility, qualifiers, name, generic parameters, parameters,
result type and body.
-/

namespace CallBridge.Source

/-- A parameter that is no receiver. -/
structure Parameter where
  /-- The name that its pattern binds, if the pattern is a name. -/
  name : Option Ident
  type : List Token
deriving DecidableEq

inductive ReturnKind where
  | unit
  | result
  | value
deriving DecidableEq

/-- A type whose last name ends in `Result` is a result, and no type or `()` is no value. -/
def ReturnKind.of : Option TypeForm → ReturnKind
  | none => .unit
  | some t =>
      match t.shape with
      | .unit => .unit
      | .path q =>
          match q.path.segments.getLast? with
          | some s => if "Result".toList.isSuffixOf s.ident.name.toList then .result else .value
          | none => .value
      | _ => .value

structure FunctionItem where
  /-- The tokens of its visibility. -/
  visibility : List Token
  isAsync : Bool
  name : Ident
  /-- Whether it has generic parameters. -/
  isGeneric : Bool
  hasReceiver : Bool
  parameters : List Parameter
  returns : ReturnKind
deriving DecidableEq

namespace Parser

/-- The place that a visibility is restricted to: a word, or a path after `in`. -/
def restriction : Parser (List Token) := do
  if seesAnyWord ["crate", "self", "super"] (← get) then
    let w ← identAny
    if (← get).isEmpty then return [.ident w] else throw "no restriction"
  else
    let head ← word "in"
    return head ++ (← plainPath).tokens

def visibility : Parser (List Token) := do
  if ← look (seesWord "pub") then
    let head ← word "pub"
    match ← get with
    | .group .paren inner :: rest =>
        match restriction.all inner with
        | .ok place => set rest; return head ++ [.group .paren place]
        | .error _ => if seesWord "in" inner then throw "unexpected token" else return head
    | _ => return head
  else return []

/-! ## Generic parameters -/

def receiver (g : Grammar) : Parser Unit := do
  if ← look (seesOp "&") then
    let _ ← op "&"
    let _ ← lifetime?
    let _ ← word? "mut"
    let _ ← word "self"
  else
    let _ ← word? "mut"
    let _ ← word "self"
    if ← look (seesOp ":") then
      let _ ← op ":"
      let _ ← g.type true

/-- Dots that end a parameter list, perhaps with a comma after them. -/
def dots : Parser Unit := do
  let _ ← op "..."
  if !(← get).isEmpty then
    let _ ← op ","

inductive ParameterForm where
  | receiver
  | typed (p : Parameter)
  | variadic

def parameter (g : Grammar) : Parser ParameterForm := do
  if ← look (seesOp "...") then
    dots
    return .variadic
  if (← attempt (receiver g)).isSome then return .receiver
  let ts ← get
  if seesName ts && seesOp "<" (skipOne ts) then
    return .typed ⟨none, (← g.type true).tokens⟩
  let form ← g.pattern
  let _ ← op ":"
  if ← look (seesOp "...") then
    dots
    return .variadic
  let type ← g.type true
  match form with
  | .name i => return .typed ⟨some i, type.tokens⟩
  | _ => return .typed ⟨none, type.tokens⟩

/-- The parameters after a comma, or none at the end. -/
def moreParameters (p : Parser (Bool × List Parameter)) : Parser (List Parameter) := do
  if (← get).isEmpty then return []
  let _ ← op ","
  return (← p).2

/-- The parameters of a function, and whether the first is a receiver. -/
def parameters (g : Grammar) (first : Bool) : Nat → Parser (Bool × List Parameter)
  | 0 => return (false, [])
  | fuel + 1 => do
      if (← get).isEmpty then return (false, [])
      let _ ← outerAttributes g
      match ← parameter g with
      | .variadic => return (false, [])
      | .receiver =>
          if !first then throw "unexpected method receiver"
          return (true, ← moreParameters (parameters g false fuel))
      | .typed p => return (false, p :: (← moreParameters (parameters g false fuel)))

/-! ## The item -/

end Parser

end CallBridge.Source
