import ListingRules.Pattern.CharSet
import ListingRules.Text.Cursor

namespace ListingRules.Pattern

inductive Assertion where
  | textStart
  | textEnd
  | lineStart
  | lineEnd
  | innerLineStart
  | anyLineStart
  | anyLineEnd
  | lastLineEnd
  | searchStart
  | edge (word : CharSet) (sides : List (Bool × Bool))
  deriving DecidableEq, Repr

namespace Assertion

def wordEdge (word : CharSet) : Assertion := edge word [(true, false), (false, true)]

def noWordEdge (word : CharSet) : Assertion := edge word [(true, true), (false, false)]

def wordStart (word : CharSet) : Assertion := edge word [(false, true)]

def wordEnd (word : CharSet) : Assertion := edge word [(true, false)]

def wordStartHalf (word : CharSet) : Assertion := edge word [(false, true), (false, false)]

def wordEndHalf (word : CharSet) : Assertion := edge word [(true, false), (false, false)]

def holds (origin place : Cursor) : Assertion → Bool
  | textStart => place.behind.isEmpty
  | textEnd => place.ahead.isEmpty
  | lineStart => place.behind.isEmpty || place.behind.head? == some '\n'
  | lineEnd => place.ahead.isEmpty || place.ahead.head? == some '\n'
  | innerLineStart =>
      place.behind.isEmpty || place.behind.head? == some '\n' && !place.ahead.isEmpty
  | anyLineStart =>
      place.behind.isEmpty || place.behind.head? == some '\n' ||
        place.behind.head? == some '\r' && place.ahead.head? != some '\n'
  | anyLineEnd =>
      place.ahead.isEmpty || place.ahead.head? == some '\r' ||
        place.ahead.head? == some '\n' && place.behind.head? != some '\r'
  | lastLineEnd => place.ahead.isEmpty || place.ahead == ['\n']
  | searchStart => place.behind.length == origin.behind.length
  | edge word sides =>
      sides.contains (place.behind.head?.any word.contains, place.ahead.head?.any word.contains)

end Assertion

end ListingRules.Pattern
