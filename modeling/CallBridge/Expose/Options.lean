import CallBridge.Source.Grammar
import CallBridge.Source.Lexer
import CallBridge.Text.Similarity

/-!
# Options of an exposed function

The options are a list of attributes: `name` with the text under which the function is exposed, and
`crate` with the path of the library. Every item that is wrong is reported, in order.
-/

namespace CallBridge.Expose

open Source

structure Options where
  name : Option String := none
  library : Option Path := none

inductive Fault where
  | unexpectedType (kind : String)
  | unexpectedFormat (kind : String)
  | unknownValue (value : String)
  | unreadable (message : String)
  | duplicate (field : String)
  | unknownField (name : String)
  /-- A fault in the value of a field. -/
  | at (field : String) (f : Fault)

namespace Fault

/-- The names of the options, sorted. -/
def fields : List String := ["crate", "name"]

def message : Fault → String
  | .unexpectedType kind => "Unexpected type `" ++ kind ++ "`"
  | .unexpectedFormat kind => "Unexpected meta-item format `" ++ kind ++ "`"
  | .unknownValue value => "Unknown value: `" ++ value ++ "`"
  | .unreadable message => message
  | .duplicate field => "Duplicate field `" ++ field ++ "`"
  | .unknownField name =>
      "Unknown field: `" ++ name ++ "`" ++
        (match Text.closest? name ["name", "crate"] with
        | some field => ". Did you mean `" ++ field ++ "`?"
        | none => ". Available values: " ++
            String.intercalate ", " (fields.map fun f => "`" ++ f ++ "`"))
  | .at field f => f.message ++ " at " ++ field

/-- Several faults as one text. -/
def messages : List Fault → String
  | [f] => f.message
  | fs => "Multiple errors: (" ++ String.intercalate ", " (fs.map message) ++ ")"

end Fault

/-! ## Items -/

inductive Item where
  | literal (l : LiteralForm)
  | attribute (a : Attribute)

/-- Whether a literal stands here; a truth value before `=` is the name of an attribute. -/
def seesItemLiteral (ts : List Token) : Bool :=
  seesLiteral ts && !(seesBool ts && seesOp "=" (skipOne ts))

def item (g : Grammar) : Parser Item := do
  let ts ← get
  if seesItemLiteral ts then return .literal (← Parser.literal)
  else if seesIdent ts || (seesOp "::" ts && seesIdent (skipOne (skipOne ts))) then
    return .attribute (← Parser.attributeItem g)
  else Parser.refuse "expected identifier or literal"

/-- The items of a list, or what is wrong with its form. -/
def items (ts : List Token) : Except String (List Item) :=
  (Parser.items (item (.forTokens ts))).all ts

/-! ## Values -/

/-- The value of an attribute, read with `ofExpr`. -/
def valueOf {α : Type} (ofExpr : ExprForm → Except Fault α) : Attribute → Except Fault α
  | .word _ => .error (.unexpectedFormat "word")
  | .list _ inner =>
      match items inner with
      | .ok _ => .error (.unexpectedFormat "list")
      | .error message => .error (.unreadable message)
  | .value _ e => ofExpr e

def text (e : ExprForm) : Except Fault String :=
  match e.shape with
  | .literal (.token ⟨.text s, _⟩) => .ok s
  | .literal l => .error (.unexpectedType l.kindName)
  | shape => .error (.unexpectedType shape.kindName)

/-- The path that a text holds. -/
def pathOfText? (s : String) : Option Path :=
  (lex? s).bind fun ts => ((Parser.path (.forTokens ts) false).all ts).toOption

/-- A path, or a text that holds one. A suffix on the text is refused. -/
def path (e : ExprForm) : Except Fault Path :=
  match e.shape with
  | .path q => .ok q.path
  | .literal (.token ⟨.text s, spelling⟩) =>
      if spelling.toList.getLast?.any fun c => c = '"' || c = '#' then
        match pathOfText? s with
        | some p => .ok p
        | none => .error (.unknownValue s)
      else .error (.unknownValue s)
  | .literal l => .error (.unexpectedType l.kindName)
  | shape => .error (.unexpectedType shape.kindName)

/-! ## The list -/

/-- A field as it is filled: unset, or set to what was read. -/
structure Reading where
  options : Options := {}
  hasName : Bool := false
  hasLibrary : Bool := false
  /-- What is wrong so far, in order. -/
  faults : List Fault := []

namespace Reading

def fault (r : Reading) (f : Fault) : Reading := { r with faults := r.faults ++ [f] }

def addName (r : Reading) (a : Attribute) : Reading :=
  if r.hasName then r.fault (.duplicate "name")
  else
    let r := { r with hasName := true }
    match valueOf text a with
    | .ok s => { r with options := { r.options with name := some s } }
    | .error f => r.fault (.at "name" f)

def addLibrary (r : Reading) (a : Attribute) : Reading :=
  if r.hasLibrary then r.fault (.duplicate "crate")
  else
    let r := { r with hasLibrary := true }
    match valueOf path a with
    | .ok p => { r with options := { r.options with library := some p } }
    | .error f => r.fault (.at "crate" f)

def add (r : Reading) (a : Attribute) : Reading :=
  match a.path.text with
  | "name" => r.addName a
  | "crate" => r.addLibrary a
  | other => r.fault (.unknownField other)

end Reading

end CallBridge.Expose
