import ListingRules.Pattern.Property
import ListingRules.Pattern.Reader
import ListingRules.Text.Blank

namespace ListingRules.Pattern.Extended

open Reader TextReader

def number (base : Nat) : Reader Nat := do
  let digits ← TextReader.takeWhile (isDigitTo base)
  guard !digits.isEmpty
  return valueTo base digits

def bracedNumber (base : Nat) : Reader Nat :=
  enclosed "\x7b" "\x7d" do
    discard (TextReader.takeWhile Text.isSpaceOrTab)
    let n ← number base
    discard (TextReader.takeWhile Text.isSpaceOrTab)
    return n

def charEscape? (c : Char) : Reader (Option Char) := do
  match c with
  | 'a' => return some '\x07'
  | 'e' => return some '\x1b'
  | 'f' => return some '\x0c'
  | 'n' => return some '\n'
  | 'r' => return some '\r'
  | 't' => return some '\t'
  | 'c' =>
      let d ← take
      guard (' ' ≤ d && d ≤ '~')
      return charOf? (d.toUpper.toNat ^^^ 0x40)
  | 'o' => return some (← charOf? (← bracedNumber 8))
  | 'x' =>
      if (← peek?) == some '\x7b' then return some (← charOf? (← bracedNumber 16))
      return charOf? (valueTo 16 (← takeUpTo (isDigitTo 16) 2))
  | _ =>
      if isDigitTo 8 c then return charOf? (valueTo 8 (c :: (← takeUpTo (isDigitTo 8) 2)))
      if c.isAlphanum then return none
      return some c

/-- The name of a property, where that of small letters, of capitals or of capitals in titles goes
for all of them if letter case is ignored. -/
def mergedProperty (ignoreCase : Bool) (name : Text) : Text :=
  if ignoreCase && [['l', 'l'], ['l', 'u'], ['l', 't']].contains (CharSet.propertyKey name) then
    ['l', 'c']
  else name

def property (negative : Bool) : Reader CharSet := do
  let (inverse, name) ← if (← peek?) == some '\x7b' then
      enclosed "\x7b" "\x7d" do
        discard (TextReader.takeWhile Text.isSpaceOrTab)
        return (← accept "^", ← TextReader.takeWhile (· != '\x7d'))
    else pure (false, [← take])
  let name := name.map fun c => if c == ':' then '=' else c
  let s ← match name.span (· != '=') with
    | (n, '=' :: v) => CharSet.propertyValue? n v
    | _ => CharSet.property? (mergedProperty (← flags).ignoreCase name)
  return .negateIf (negative != inverse) s

def setEscape? (c : Char) : Reader (Option CharSet) := do
  match c with
  | 'd' => return some .asciiDigits
  | 'D' => return some (.complement .asciiDigits)
  | 's' => return some .asciiSpaces
  | 'S' => return some (.complement .asciiSpaces)
  | 'w' => return some .asciiWord
  | 'W' => return some (.complement .asciiWord)
  | 'h' => return some .horizontalSpaces
  | 'H' => return some (.complement .horizontalSpaces)
  | 'v' => return some .verticalSpaces
  | 'V' => return some (.complement .verticalSpaces)
  | 'p' => some <$> property false
  | 'P' => some <$> property true
  | _ => return none

end ListingRules.Pattern.Extended
