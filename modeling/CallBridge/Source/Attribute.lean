import CallBridge.Source.Path

/-!
# Attributes

An attribute names something by a path and perhaps adds a group of tokens or, after `=`, an
expression.
-/

namespace CallBridge.Source

inductive Attribute where
  | word (p : Path)
  | list (p : Path) (inner : List Token)
  | value (p : Path) (e : ExprForm)

namespace Attribute

def path : Attribute → Path
  | .word p => p
  | .list p _ => p
  | .value p _ => p

end Attribute

namespace Parser

/-- A literal that is all there is left, or any expression. -/
def attributeValue (g : Grammar) : Parser ExprForm := do
  let ts ← get
  match literal.all ts with
  | .ok l => set ([] : List Token); return ⟨.literal l, l.tokens⟩
  | .error _ =>
      if seesOp "#" ts && seesGroup .bracket (skipOne ts) then
        throw "unexpected attribute inside of attribute"
      g.expr true

def attributeItem (g : Grammar) : Parser Attribute := do
  let p ←
    if ← look (seesWord "unsafe") then
      let _ ← word "unsafe"
      pure { segments := [⟨⟨"unsafe", false⟩, .none⟩] }
    else plainPath
  match ← get with
  | .group _ inner :: rest => set rest; return .list p inner
  | ts =>
      if seesOp "=" ts then
        let _ ← op "="
        return .value p (← attributeValue g)
      else return .word p

/-- The attributes in front of something. Their tokens are kept. -/
def outerAttributes (g : Grammar) : Parser (List Token) :=
  repeated do
    if ← look (seesOp "#") then
      let sign ← op "#"
      let inner ← group .bracket
      let _ ← inside (attributeItem g) inner
      return (sign ++ [.group .bracket inner], true)
    else return ([], false)

end Parser

end CallBridge.Source
