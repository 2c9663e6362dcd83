import ListingRules.Condition.Source
import ListingRules.Search

namespace ListingRules

inductive Test [PatternEngine] where
  | always
  | search (function : ConditionFunction) (searcher : Searcher)
  deriving DecidableEq

variable [PatternEngine]

def Test.holds (g : Greeting) : Test → Bool
  | always => true
  | search f s => s.foundIn (f.subject g)

abbrev Condition := Formula Test

abbrev PatternReader := Text → Except (Option Text) PatternEngine.Compiled

namespace Condition

def patterns : PatternReader :=
  PatternEngine.read

/-- The test of a call. An empty text is found everywhere. -/
def testOf (read : PatternReader) (call : Call) : Except SourceError Test := do
  let (t, stop) ← Quoted.decodeInSource call.quote
  if t.isEmpty then return .always
  if call.function.takesPattern then
    match read t with
    | .ok p => return .search call.function (.pattern t p)
    | .error reason =>
        .error { SourceError.between .invalidRegex call.quote stop with detail := reason }
  else return .search call.function (.substring t)

/-- The condition of a source. The whole source is read before the first pattern is made. -/
def compileWith (read : PatternReader) (source : Text) : Except SourceError Condition := do
  match ← ofSource source with
  | none => return .test .always
  | some p => p.mapM (testOf read)

def compile (source : Text) : Except SourceError Condition :=
  compileWith patterns source

def evaluate (c : Condition) (g : Greeting) : Bool :=
  Formula.evaluate (Test.holds g) c

end Condition

end ListingRules
