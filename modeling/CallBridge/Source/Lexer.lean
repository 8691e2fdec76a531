import CallBridge.Source.Literal

/-!
# From source text to tokens

Blanks and comments stand between tokens; a documentation comment is an attribute. Reading fails
where no token begins, and where brackets do not match.
-/

namespace CallBridge.Source

open Text (isBlank)

/-- The inside of a block comment of which `depth` are still open, and what follows it. -/
def blockComment? : Nat → List Char → Option (List Char × List Char)
  | _, [] => none
  | depth, '/' :: '*' :: rest =>
      (blockComment? (depth + 1) rest).map fun (s, rest) => ('/' :: '*' :: s, rest)
  | depth, '*' :: '/' :: rest =>
      if depth ≤ 1 then some ([], rest)
      else (blockComment? (depth - 1) rest).map fun (s, rest) => ('*' :: '/' :: s, rest)
  | depth, c :: rest => (blockComment? depth rest).map fun (s, rest) => (c :: s, rest)

/-- The rest of the line, and what follows from its line feed on. -/
def line : List Char → List Char × List Char
  | [] => ([], [])
  | '\n' :: rest => ([], '\n' :: rest)
  | '\r' :: '\n' :: rest => ([], '\n' :: rest)
  | c :: rest =>
      let (s, rest) := line rest
      (c :: s, rest)

/-- Blanks between tokens, with the two marks of writing direction. -/
def isSpace (c : Char) : Bool := isBlank c || c.toNat = 0x200E || c.toNat = 0x200F

def isLineComment (s : List Char) : Bool :=
  startsWith "//" s && (!startsWith "///" s || startsWith "////" s) && !startsWith "//!" s

def isBlockComment (s : List Char) : Bool :=
  startsWith "/*" s && (!startsWith "/**" s || startsWith "/***" s) && !startsWith "/*!" s

/-- Passes over blanks and plain comments. -/
def skipSpace : Nat → List Char → List Char
  | 0, s => s
  | _, [] => []
  | fuel + 1, c :: rest =>
      if isLineComment (c :: rest) then skipSpace fuel (line rest).2
      else
        match after? ['/', '*', '*', '/'] (c :: rest) with
        | some rest => skipSpace fuel rest
        | none =>
            if isBlockComment (c :: rest) then
              match blockComment? 1 (rest.drop 1) with
              | some (_, rest) => skipSpace fuel rest
              | none => c :: rest
            else if isSpace c then skipSpace fuel rest
            else c :: rest

/-- Whether each carriage return stands before a line feed. -/
def hasNoBareReturn : List Char → Bool
  | [] => true
  | '\r' :: '\n' :: rest => hasNoBareReturn rest
  | '\r' :: _ => false
  | _ :: rest => hasNoBareReturn rest

/-- The text of a documentation comment, whether it documents what is around it, and the rest. -/
def docText? (s : List Char) : Option (List Char × Bool × List Char) :=
  match s with
  | '/' :: '/' :: '!' :: rest => let (t, rest) := line rest; some (t, true, rest)
  | '/' :: '*' :: '!' :: rest =>
      (blockComment? 1 ('!' :: rest)).map fun (t, rest) => (t.drop 1, true, rest)
  | '/' :: '/' :: '/' :: rest =>
      if rest.head? = some '/' then none
      else let (t, rest) := line rest; some (t, false, rest)
  | '/' :: '*' :: '*' :: rest =>
      if rest.head? = some '*' then none
      else (blockComment? 1 ('*' :: rest)).map fun (t, rest) => (t.drop 1, false, rest)
  | _ => none

/-- A documentation comment as an attribute. -/
def docComment? (s : List Char) : Option (List Token × List Char) :=
  (docText? s).bind fun (t, inner, rest) =>
    if hasNoBareReturn t then
      some ([.mark '#' false] ++ (if inner then [.mark '!' false] else []) ++
        [.group .bracket
          [.word "doc", .mark '=' false, .literal (Token.textLiteral (String.ofList t))]], rest)
    else none

def markCharacters : List Char := "~!@#$%^&*-=+|;:,<.>/?'".toList

/-- The character of a mark; a slash that begins a comment is none. -/
def mark? : List Char → Option (Char × List Char)
  | [] => none
  | c :: rest =>
      if startsWith "//" (c :: rest) || startsWith "/*" (c :: rest) then none
      else if markCharacters.contains c then some (c, rest)
      else none

/-- An identifier, raw or not, and the rest. Some words cannot be raw. -/
def ident? (s : List Char) : Option (Ident × List Char) :=
  match after? ['r', '#'] s with
  | some rest =>
      (identifier? rest).bind fun (name, rest) =>
        let name := String.ofList name
        if ["_", "super", "self", "Self", "crate"].contains name then none
        else some (⟨name, true⟩, rest)
  | none => (identifier? s).map fun (name, rest) => (⟨String.ofList name, false⟩, rest)

/-- A mark; the one that begins a lifetime is always joined to its name. -/
def punctuation? (s : List Char) : Option (Token × List Char) :=
  (mark? s).bind fun (c, rest) =>
    if c = '\'' then
      (ident? rest).bind fun (_, afterName) =>
        if afterName.head? = some '\'' || (afterName.head? = some '#' && !startsWith "r#" rest) then
          none
        else some (.mark '\'' true, rest)
    else some (.mark c (mark? rest).isSome, rest)

/-- The beginnings of quoted literals, which are no identifiers. -/
def reserved : List String :=
  ["r\"", "r#\"", "r##", "b\"", "b'", "br\"", "br#", "c\"", "cr\"", "cr#"]

/-- A token that is no group. -/
def leaf? (s : List Char) : Option (Token × List Char) :=
  match literal? s with
  | some (l, rest) => some (.literal l, rest)
  | none =>
      match punctuation? s with
      | some found => some found
      | none =>
          if reserved.any (startsWith · s) then none
          else (ident? s).map fun (i, rest) => (.ident i, rest)

def opening? : Char → Option Delimiter
  | '(' => some .paren
  | '[' => some .bracket
  | '{' => some .brace
  | _ => none

def closing? : Char → Option Delimiter
  | ')' => some .paren
  | ']' => some .bracket
  | '}' => some .brace
  | _ => none

/-- Reads on with the groups that are open, each with the tokens before it, and the tokens of the
innermost one; both are in reverse. -/
def lexFrom : Nat → List (Delimiter × List Token) → List Token → List Char → Option (List Token)
  | 0, _, _, _ => none
  | fuel + 1, groups, before, s =>
      match skipSpace (s.length + 1) s with
      | [] => if groups.isEmpty then some before.reverse else none
      | c :: rest =>
          match docComment? (c :: rest) with
          | some (tokens, rest) => lexFrom fuel groups (tokens.reverse ++ before) rest
          | none =>
              match opening? c, closing? c with
              | some d, _ => lexFrom fuel ((d, before) :: groups) [] rest
              | none, some d =>
                  match groups with
                  | (e, outer) :: groups =>
                      if d = e then lexFrom fuel groups (.group d before.reverse :: outer) rest
                      else none
                  | [] => none
              | none, none =>
                  match leaf? (c :: rest) with
                  | some (t, rest) => lexFrom fuel groups (t :: before) rest
                  | none => none

/-- The tokens of a text, which may begin with a byte order mark. -/
def lex? (s : String) : Option (List Token) :=
  let cs := match s.toList with
    | c :: rest => if c.toNat = 0xFEFF then rest else c :: rest
    | [] => []
  lexFrom (cs.length + 1) [] [] cs

end CallBridge.Source
