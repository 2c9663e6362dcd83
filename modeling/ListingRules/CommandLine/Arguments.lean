import ListingRules.Text.Basic

namespace ListingRules.CommandLine

structure OptionForm where
  name : String
  letter : Option Char := none
  takesValue : Bool := true
  deriving DecidableEq, Repr

inductive Argument where
  | flag (name : String)
  | option (name : String) (value : Text)
  | plain (t : Text)
  deriving DecidableEq, Repr

/-- A text that cannot be the value of an option before it. A single dash can. -/
def looksLikeOption (t : Text) : Bool :=
  t.head? == some '-' && t.length != 1

inductive Word where
  | dashes
  | complete (arguments : List Argument)
  | lacksValue (name : String)
  deriving DecidableEq, Repr

def wordOf? (forms : List OptionForm) : Text → Option Word
  | ['-', '-'] => some .dashes
  | '-' :: '-' :: long => do
      let form ← forms.find? (·.name.toList == long.takeWhile (· != '='))
      match form.takesValue, long.dropWhile (· != '=') with
      | true, _ :: value => return .complete [.option form.name value]
      | true, [] => return .lacksValue form.name
      | false, [] => return .complete [.flag form.name]
      | false, _ => none
  | '-' :: letter :: letters => do
      return .complete (← (letter :: letters).mapM fun l =>
        (forms.find? fun f => f.letter == some l && !f.takesValue).map fun f => .flag f.name)
  | t => some (.complete [.plain t])

def readFrom? (forms : List OptionForm) : Option String → List Text → Option (List Argument)
  | none, [] => some []
  | some _, [] => none
  | some name, value :: rest => do
      guard !(looksLikeOption value)
      return .option name value :: (← readFrom? forms none rest)
  | none, t :: rest => do
      match ← wordOf? forms t with
      | .dashes => return rest.map .plain
      | .complete arguments => return arguments ++ (← readFrom? forms none rest)
      | .lacksValue name => readFrom? forms (some name) rest

def Argument.name? : Argument → Option String
  | flag name | option name _ => some name
  | plain _ => none

def Argument.plain? : Argument → Option Text
  | plain t => some t
  | _ => none

structure Given where
  arguments : List Argument
  nodup : (arguments.filterMap Argument.name?).Nodup

namespace Given

def read? (forms : List OptionForm) (arguments : List Text) : Option Given := do
  let l ← readFrom? forms none arguments
  if h : (l.filterMap Argument.name?).Nodup then return ⟨l, h⟩ else none

def value? (g : Given) (name : String) : Option Text :=
  g.arguments.findSome? fun
    | .option n value => if n = name then some value else none
    | _ => none

def has (g : Given) (name : String) : Bool :=
  g.arguments.contains (.flag name)

def plain (g : Given) : List Text :=
  g.arguments.filterMap Argument.plain?

end Given

end ListingRules.CommandLine
