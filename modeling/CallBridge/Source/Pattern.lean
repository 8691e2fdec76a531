import CallBridge.Source.Attribute

/-!
# Patterns
-/

namespace CallBridge.Source

namespace Parser

/-- Whether a range of patterns has no end here. -/
def endsRange (ts : List Token) : Bool :=
  ts.isEmpty || seesOp "|" ts || seesOp "=" ts || (seesOp ":" ts && !seesOp "::" ts) ||
    seesOp "," ts || seesOp ";" ts || seesWord "if" ts

/-- One end of a range: a literal, a path or a constant block; whether there is one. -/
def rangeEnd (g : Grammar) : Parser Bool := do
  let ts ← get
  if endsRange ts then return false
  if seesLiteral ts then
    let _ ← literal
    return true
  if seesName ts || seesOp "::" ts || seesOp "<" ts ||
      seesAnyWord ["self", "Self", "super", "crate"] ts then
    let _ ← qualifiedPath g true
    return true
  let _ ← word "const"
  let _ ← group .brace
  return true

/-- The dots of a range; whether its upper end has to be there. -/
def rangeDots : Parser Bool := do
  if ← look (seesOp "..=") then
    let _ ← op "..="
    return true
  if ← look (seesOp "...") then
    let _ ← op "..."
    return true
  let _ ← op ".."
  return false

/-- The dots of a range and its upper end. -/
def rangeRest (g : Grammar) : Parser PatternForm := do
  let closed ← rangeDots
  let bounded ← rangeEnd g
  if closed && !bounded then refuse "expected range upper bound"
  return if bounded then .other else .openRange

/-- A pattern with alternatives. -/
def alternatives (g : Grammar) : Parser PatternForm := do
  let leading ← op? "|"
  let first ← g.pattern
  let more ← repeated do
    let ts ← get
    if seesOp "|" ts && !seesOp "||" ts && !seesOp "|=" ts then
      let bar ← op "|"
      let _ ← g.pattern
      return (bar, true)
    else return ([], false)
  return if leading.isEmpty && more.isEmpty then first else .other

/-- The patterns of a list; each is checked as `fits` says. -/
def patternList (g : Grammar) (fits : PatternForm → Bool) : Parser (List PatternForm) :=
  items do
    let p ← alternatives g
    if fits p then return p else throw "range pattern is not allowed here"

def isBounded : PatternForm → Bool
  | .openRange => false
  | _ => true

/-- One field of a structure. -/
def fieldPattern (g : Grammar) : Parser Unit := do
  let boxed ← word? "box"
  let byRef ← word? "ref"
  let mutability ← word? "mut"
  if !(boxed ++ byRef ++ mutability).isEmpty then
    let _ ← ident
  else
    match ← get with
    | .literal ⟨.int, _⟩ :: rest =>
        set rest
        let _ ← op ":"
        let _ ← alternatives g
    | _ =>
        let _ ← ident
        if ← look (seesOp ":") then
          let _ ← op ":"
          let _ ← alternatives g

/-- The fields of a structure; two dots may end them. -/
def fieldPatterns (g : Grammar) : Nat → Parser Unit
  | 0 => return
  | fuel + 1 => do
      if (← get).isEmpty then return
      let _ ← outerAttributes g
      if ← look (seesOp "..") then
        let _ ← op ".."
        return
      fieldPattern g
      if (← get).isEmpty then return
      let _ ← op ","
      fieldPatterns g fuel

def pathPattern (g : Grammar) : Parser PatternForm := do
  let q ← qualifiedPath g true
  let ts ← get
  if q.base.isNone && seesOp "!" ts && !seesOp "!=" ts && q.path.isPlain then
    let _ ← op "!"
    let _ ← anyGroup
    return .other
  if seesGroup .brace ts then
    let inner ← group .brace
    inside (fieldPatterns g (inner.length + 1)) inner
    return .other
  if seesGroup .paren ts then
    let inner ← group .paren
    let _ ← inside (patternList g fun _ => true) inner
    return .other
  if seesOp ".." ts then rangeRest g else return .other

def namePattern (g : Grammar) : Parser PatternForm := do
  let _ ← word? "ref"
  let _ ← word? "mut"
  let i ← if ← look (seesWord "self") then identAny else ident
  if ← look (seesOp "@") then
    let _ ← op "@"
    let _ ← g.pattern
  return .name i

def boundPattern (g : Grammar) : Parser PatternForm := do
  let _ ← rangeEnd g
  if ← look (seesOp "..") then rangeRest g else return .other

/-- Whether a path, a macro or a structure begins here. -/
def seesPathPattern (ts : List Token) : Bool :=
  let next := skipOne ts
  (seesName ts && (seesOp "::" next || seesOp "!" next || seesGroup .brace next ||
    seesGroup .paren next || seesOp ".." next)) ||
  (seesWord "self" ts && seesOp "::" next) || seesOp "::" ts || seesOp "<" ts ||
  seesAnyWord ["Self", "super", "crate"] ts

def pattern (g : Grammar) : Parser PatternForm := do
  let ts ← get
  if seesPathPattern ts then pathPattern g
  else if seesWord "_" ts then
    let _ ← word "_"
    return .other
  else if seesWord "box" ts then
    let _ ← word "box"
    let _ ← g.pattern
    return .other
  else if seesOp "-" ts || seesLiteral ts || seesWord "const" ts then boundPattern g
  else if seesAnyWord ["ref", "mut", "self"] ts || seesName ts then namePattern g
  else if seesOp "&" ts then
    let _ ← op "&"
    let _ ← word? "mut"
    let _ ← g.pattern
    return .other
  else if seesGroup .paren ts then
    let inner ← group .paren
    let _ ← inside (patternList g fun _ => true) inner
    return .other
  else if seesGroup .bracket ts then
    let inner ← group .bracket
    let _ ← inside (patternList g isBounded) inner
    return .other
  else if seesOp ".." ts && !seesOp "..." ts then
    let closed ← rangeDots
    let bounded ← rangeEnd g
    if closed && !bounded then refuse "expected range upper bound"
    return if bounded then .openRange else .rest
  else refuse "expected a pattern"

end Parser

end CallBridge.Source
