import ListingRules.Pattern.Extended
import ListingRules.Pattern.Match
import ListingRules.Pattern.Regular
import ListingRules.Pattern.Start
import ListingRules.Search

namespace ListingRules.Pattern

def Node.find? (whole : Node) (c : Cursor) : Option Cursor :=
  if whole.isRegular then whole.firstStart? c else whole.firstTry? c

@[reducible]
def engineOf (parse? : Text → Option Node) : PatternEngine where
  Compiled := Node
  read source := (parse? source).elim (.error none) .ok
  find? p place := (p.find? place).map (·.offset)

/-- A source that is not regular may be an extended one. -/
instance : PatternEngine :=
  (engineOf Regular.parse?).orElse (engineOf Extended.parse?)

end ListingRules.Pattern
