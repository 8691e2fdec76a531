import CallBridge.Source.Parser

/-!
# Forms of the Rust grammar

What the parsers return: the tokens of a piece of source, written anew, and as much of its
structure as the rules ask about. The parsers for types, expressions and patterns need one
another; `Grammar` holds the ones to use for what stands inside a larger piece.
-/

namespace CallBridge.Source

/-! ## Paths -/

/-- The generic arguments of a path segment. -/
inductive Arguments where
  | none
  | angled (tokens : List Token)
  | called (tokens : List Token)
deriving DecidableEq

namespace Arguments

def tokens : Arguments → List Token
  | .none => []
  | .angled ts => ts
  | .called ts => ts

def isNone : Arguments → Bool
  | .none => true
  | _ => false

def isCalled : Arguments → Bool
  | .called _ => true
  | _ => false

end Arguments

structure Segment where
  ident : Ident
  arguments : Arguments := .none
deriving DecidableEq

def Segment.tokens (s : Segment) : List Token := .ident s.ident :: s.arguments.tokens

structure Path where
  /-- Whether it begins with `::`. -/
  leading : Bool := false
  segments : List Segment
deriving DecidableEq

namespace Path

def join : List Segment → List Token
  | [] => []
  | [s] => s.tokens
  | s :: rest => s.tokens ++ Token.operator "::" ++ join rest

def tokens (p : Path) : List Token :=
  (if p.leading then Token.operator "::" else []) ++ join p.segments

/-- Whether no segment has arguments. -/
def isPlain (p : Path) : Bool := p.segments.all (·.arguments.isNone)

/-- The text of a path, without its arguments and without a leading `::`. -/
def text (p : Path) : String := String.intercalate "::" (p.segments.map (·.ident.text))

def lastHasNoArguments (p : Path) : Bool := p.segments.getLast?.any (·.arguments.isNone)

/-- Gives arguments to the last segment. -/
def withArguments (p : Path) (a : Arguments) : Path :=
  match p.segments.getLast? with
  | some s => { p with segments := p.segments.dropLast ++ [{ s with arguments := a }] }
  | none => p

end Path

/-- A path, with the type it starts from in angle brackets if there is one. The first `position`
segments name the trait and stand between these brackets too. -/
structure QualifiedPath where
  base : Option (List Token × Nat) := none
  path : Path

namespace QualifiedPath

def tokens (q : QualifiedPath) : List Token :=
  match q.base with
  | none => q.path.tokens
  | some (type, 0) => Token.operator "<" ++ type ++ Token.operator ">" ++ q.path.tokens
  | some (type, position) =>
      Token.operator "<" ++ type ++ [.word "as"] ++
        Path.tokens { q.path with segments := q.path.segments.take position } ++
        Token.operator ">" ++ Token.operator "::" ++ Path.join (q.path.segments.drop position)

end QualifiedPath

/-! ## Types -/

inductive TypeShape where
  | unit
  | path (q : QualifiedPath)
  /-- Trait bounds without `dyn`; whether there is just one. -/
  | bounds (single : Bool)
  | other

structure TypeForm where
  shape : TypeShape := .other
  tokens : List Token

/-! ## Expressions -/

inductive LiteralForm where
  | token (l : Literal)
  | negative (l : Literal)
  | bool (b : Bool)

namespace LiteralForm

def tokens : LiteralForm → List Token
  | .token l => [.literal l]
  | .negative l => [.mark '-' false, .literal l]
  | .bool b => [.word (if b then "true" else "false")]

/-- The name of its kind in messages. -/
def kindName : LiteralForm → String
  | .bool _ => "bool"
  | .negative l => ofKind l.kind
  | .token l => ofKind l.kind
where
  ofKind : LiteralKind → String
    | .text _ => "string"
    | .bytes => "byte string"
    | .cText => "unknown"
    | .byte => "byte"
    | .char => "char"
    | .int => "int"
    | .float => "float"

end LiteralForm

inductive ExprShape where
  | literal (l : LiteralForm)
  | path (q : QualifiedPath)
  | range
  | comparison
  /-- Any other kind, by its name in messages. -/
  | other (kind : String)

namespace ExprShape

def isRange : ExprShape → Bool
  | .range => true
  | _ => false

def isComparison : ExprShape → Bool
  | .comparison => true
  | _ => false

/-- The name of its kind in messages. -/
def kindName : ExprShape → String
  | .literal _ => "lit"
  | .path _ => "path"
  | .range => "range"
  | .comparison => "binary"
  | .other kind => kind

end ExprShape

structure ExprForm where
  shape : ExprShape
  tokens : List Token

/-! ## Patterns -/

inductive PatternForm where
  /-- A name, perhaps with `ref`, `mut` or a pattern after `@`. -/
  | name (i : Ident)
  /-- Two dots. -/
  | rest
  /-- A range that lacks one of its ends. -/
  | openRange
  | other

/-! ## The grammar -/

/-- Parsers for what stands inside a larger piece. A type may be asked not to take `+`, and an
expression not to take a brace for the fields of a structure. -/
structure Grammar where
  type : Bool → Parser TypeForm
  expr : Bool → Parser ExprForm
  pattern : Parser PatternForm

namespace Parser

def literal : Parser LiteralForm := do
  match ← get with
  | .literal l :: rest => set rest; return .token l
  | .mark '-' _ :: .literal l :: rest =>
      if l.kind = .int || l.kind = .float then
        set rest
        return .negative l
      else refuse "expected literal"
  | .ident i :: rest =>
      if i.isWord "true" || i.isWord "false" then
        set rest
        return .bool (i.isWord "true")
      else refuse "expected literal"
  | _ => refuse "expected literal"

end Parser

end CallBridge.Source
