import ListingRules.Condition.Compile

namespace ListingRules

variable [PatternEngine]

def Test.text : Test → Text
  | always => "syst_contains(\"\")".toList
  | search f s => f.name.toList ++ '(' :: Quoted.encode s.source ++ [')']

namespace Condition

def operandText (least : Nat) (p : Condition) (text : Text) : Text :=
  if p.strength < least then '(' :: text ++ [')'] else text

def text : Condition → Text
  | .test t => t.text
  | .not p => "not ".toList ++ operandText 3 p (text p)
  | .and p q => operandText 1 p (text p) ++ " and ".toList ++ operandText 2 q (text q)
  | .or p q => operandText 0 p (text p) ++ " or ".toList ++ operandText 1 q (text q)

end Condition

end ListingRules
