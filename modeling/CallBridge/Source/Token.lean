import CallBridge.Text.Quoted

/-!
# Tokens of Rust source

Source text is a sequence of tokens in which brackets are matched: a group holds the tokens
between a pair of brackets. A mark of punctuation is one character, and says whether it is joined
to a mark that follows directly, as the two colons of `::` are.

`render` writes tokens with one blank between them, and none after a joined mark.
-/

namespace CallBridge.Source

structure Ident where
  name : String
  /-- Whether it is written with `r#`, so that it may be a keyword. -/
  raw : Bool := false
deriving DecidableEq, Inhabited

namespace Ident

def text (i : Ident) : String := if i.raw then "r#" ++ i.name else i.name

/-- Words that name nothing unless they are raw. -/
def keywords : List String :=
  ["_", "abstract", "as", "async", "await", "become", "box", "break", "const", "continue", "crate",
    "do", "dyn", "else", "enum", "extern", "false", "final", "fn", "for", "if", "impl", "in", "let",
    "loop", "macro", "match", "mod", "move", "mut", "override", "priv", "pub", "ref", "return",
    "Self", "self", "static", "struct", "super", "trait", "true", "try", "type", "typeof", "unsafe",
    "unsized", "use", "virtual", "where", "while", "yield"]

def isName (i : Ident) : Bool := i.raw || !keywords.contains i.name

/-- Whether it is the word `w`; a raw identifier never is. -/
def isWord (i : Ident) (w : String) : Bool := !i.raw && i.name = w

end Ident

inductive LiteralKind where
  /-- A string literal, and the text it stands for. -/
  | text (value : String)
  | bytes
  | cText
  | byte
  | char
  | int
  | float
deriving DecidableEq

structure Literal where
  kind : LiteralKind
  spelling : String
deriving DecidableEq

inductive Delimiter where
  | paren
  | bracket
  | brace
deriving DecidableEq

inductive Token where
  | ident (i : Ident)
  | mark (c : Char) (joint : Bool)
  | literal (l : Literal)
  | group (d : Delimiter) (inner : List Token)

namespace Token

/-- A word that is not raw. -/
def word (w : String) : Token := .ident ⟨w, false⟩

/-- The marks of an operator: all but the last are joined to the next. -/
def marks : List Char → List Token
  | [] => []
  | [c] => [.mark c false]
  | c :: rest => .mark c true :: marks rest

def operator (s : String) : List Token := marks s.toList

/-- The literal that stands for `s`. A NUL before an octal digit is written in hexadecimal, and
a single quote needs no escape. -/
def textLiteral (s : String) : Literal :=
  ⟨.text s, String.ofList ('"' :: escaped s.toList ++ ['"'])⟩
where
  escaped : List Char → List Char
    | [] => []
    | '\x00' :: d :: rest =>
        (if '0' ≤ d && d ≤ '7' then ['\\', 'x', '0', '0'] else ['\\', '0']) ++ escaped (d :: rest)
    | c :: rest => Text.showChar c ++ escaped rest

def isJoint : Token → Bool
  | .mark _ joint => joint
  | _ => false

mutual

def render : Token → String
  | .ident i => i.text
  | .mark c _ => c.toString
  | .literal l => l.spelling
  | .group .paren inner => "(" ++ renderAll inner ++ ")"
  | .group .bracket inner => "[" ++ renderAll inner ++ "]"
  | .group .brace [] => "\x7b \x7d"
  | .group .brace (t :: rest) => "\x7b " ++ renderAll (t :: rest) ++ " \x7d"

def renderAll : List Token → String
  | [] => ""
  | [t] => t.render
  | t :: u :: rest => t.render ++ (if t.isJoint then "" else " ") ++ renderAll (u :: rest)

end

mutual

/-- Whether two tokens are the same, what groups hold included. -/
def same : Token → Token → Bool
  | .ident i, .ident j => i = j
  | .mark c joint, .mark d joint' => c = d && joint = joint'
  | .literal l, .literal k => l = k
  | .group d inner, .group e inner' => d = e && sameAll inner inner'
  | _, _ => false

def sameAll : List Token → List Token → Bool
  | [], [] => true
  | t :: rest, u :: rest' => t.same u && sameAll rest rest'
  | _, _ => false

end

mutual

theorem same_iff : ∀ t u : Token, t.same u = true ↔ t = u
  | .ident i, u => by cases u <;> simp [same]
  | .mark c joint, u => by cases u <;> simp [same]
  | .literal l, u => by cases u <;> simp [same]
  | .group d inner, u => by cases u <;> simp [same, sameAll_iff inner]

theorem sameAll_iff : ∀ ts us : List Token, sameAll ts us = true ↔ ts = us
  | [], us => by cases us <;> simp [sameAll]
  | t :: rest, us => by cases us <;> simp [sameAll, same_iff t, sameAll_iff rest]

end

instance : DecidableEq Token := fun t u => decidable_of_iff (t.same u = true) (same_iff t u)

/-- Whether it ends a statement. -/
def isSemicolon : Token → Bool
  | .mark ';' _ => true
  | _ => false

mutual

/-- The number of tokens, groups and what they hold included. -/
def size : Token → Nat
  | .ident _ => 1
  | .mark _ _ => 1
  | .literal _ => 1
  | .group _ inner => sizeAll inner + 1

def sizeAll : List Token → Nat
  | [] => 0
  | t :: rest => t.size + sizeAll rest

end

end Token

end CallBridge.Source
