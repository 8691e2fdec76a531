import CallBridge.Expose.Options
import CallBridge.Source.Function

/-!
# The constructor of an exposed function

For a function `f` a second function `f_exposed` is generated. It makes the exposed function: a
closure that decodes each positional argument into a local variable of the parameter's type,
passes these on to `f`, and turns the result into what is returned.
-/

namespace CallBridge.Expose

open Source

/-- Why a function cannot be exposed. -/
inductive Unfit where
  | async
  | generic
  | method
deriving DecidableEq

def Unfit.message : Unfit → String
  | .async => "#[expose] functions must be synchronous"
  | .generic => "#[expose] functions cannot be generic"
  | .method => "#[expose] supports free functions only; expose methods with a closure"

def checkSignature (f : FunctionItem) : Except Unfit Unit :=
  if f.isAsync then .error .async
  else if f.isGeneric then .error .generic
  else if f.hasReceiver then .error .method
  else .ok ()

/-- A local variable with the type and the position of the argument it is decoded from. -/
structure Local where
  name : String
  type : List Token
  index : Nat
deriving DecidableEq

/-- The local for a parameter is named after the name it binds, or else after its position. -/
def localName (index : Nat) (p : Parameter) : String :=
  match p.name with
  | some i => "__eel_" ++ i.name
  | none => "__eel_arg" ++ toString index

def locals (ps : List Parameter) : List Local :=
  ps.zipIdx.map fun (p, index) => ⟨localName index p, p.type, index⟩

structure Wrapper where
  /-- The name that the peer calls the function by. -/
  name : String
  function : Ident
  visibility : List Token
  library : Path
  locals : List Local
  returns : ReturnKind
deriving DecidableEq

def defaultLibrary : Path := ⟨true, [⟨⟨"eel", false⟩, .none⟩]⟩

/-- The wrapper of a function. -/
def wrap (o : Options) (f : FunctionItem) : Except Unfit Wrapper := do
  checkSignature f
  return { name := o.name.getD f.name.text, function := f.name, visibility := f.visibility,
           library := o.library.getD defaultLibrary, locals := locals f.parameters,
           returns := f.returns }

namespace Wrapper

def colons : List Token := Token.operator "::"

/-- The tokens of a path made of plain names after `::`. -/
def absolute (names : List String) : List Token :=
  names.flatMap fun n => colons ++ [.word n]

/-- Something that the library provides. -/
def provided (w : Wrapper) (names : List String) : List Token :=
  w.library.tokens ++ absolute names

def paren (ts : List Token) : Token := .group .paren ts

def text (s : String) : Token := .literal (Token.textLiteral s)

/-- A position as a number literal. -/
def position (n : Nat) : Token := .literal ⟨.int, toString n ++ "usize"⟩

/-- The statement that decodes an argument. -/
def decode (w : Wrapper) (l : Local) : List Token :=
  [.word "let", .word l.name, .mark ':' false] ++ l.type ++ [.mark '=' false] ++
    w.provided ["arg"] ++
    [paren [.mark '&' false, .word "args", .mark ',' false, position l.index],
      .mark '?' false, .mark ';' false]

def commaSeparated : List Token → List Token
  | [] => []
  | [t] => [t]
  | t :: rest => t :: .mark ',' false :: commaSeparated rest

/-- The call of the function with all locals. -/
def invocation (w : Wrapper) : List Token :=
  [.ident w.function, paren (commaSeparated (w.locals.map fun l => .word l.name))]

def success : List Token := absolute ["std", "result", "Result", "Ok"]

def nothing : List Token := absolute ["std", "option", "Option", "None"]

/-- What the closure returns after the locals are decoded. -/
def result (w : Wrapper) : List Token :=
  match w.returns with
  | .unit => w.invocation ++ [.mark ';' false] ++ success ++ [paren nothing]
  | .result => w.provided ["result_to_return"] ++ [paren w.invocation]
  | .value => w.provided ["to_return"] ++ [paren w.invocation]

def closure (w : Wrapper) : List Token :=
  [.mark '|' false, .word "args", .mark '|' false,
    .group .brace (w.locals.flatMap w.decode ++ w.result)]

def documentation (w : Wrapper) : String :=
  "Exposed-function constructor for [`" ++ w.function.text ++ "`], callable as `" ++ w.name ++ "`"

/-- The constructor up to its parameters, of which there are none. -/
def heading (w : Wrapper) : List Token :=
  [.mark '#' false, .group .bracket [.word "doc", .mark '=' false, text w.documentation]] ++
    w.visibility ++ [.word "fn", .word (w.function.name ++ "_exposed"), paren []]

def body (w : Wrapper) : List Token :=
  w.provided ["ExposedFunction", "new"] ++ [paren ([text w.name, .mark ',' false] ++ w.closure)]

/-- The constructor. -/
def tokens (w : Wrapper) : List Token :=
  w.heading ++ (Token.operator "->" ++ w.provided ["ExposedFunction"]) ++ [.group .brace w.body]

end Wrapper

/-! ## From source text -/

end CallBridge.Expose
