import ListingRules.Pattern.Property
import ListingRules.Pattern.Reader
import ListingRules.Text.Search

namespace ListingRules.Pattern.Regular

open Reader TextReader

inductive Escape where
  | char (c : Char)
  | set (s : CharSet)
  | assertion (a : Assertion)
  deriving DecidableEq, Repr

def dropSpaced (inComment : Bool) : Text → Text
  | [] => []
  | c :: t =>
      if inComment then dropSpaced (c != '\n') t
      else if Character.isWhitespace c then dropSpaced false t
      else if c = '#' then dropSpaced true t
      else c :: t

def skipSpaced : Reader Unit := do
  if (← flags).spaced then setRest (dropSpaced false (← rest))

def takeSpaced (p : Char → Bool) : Nat → Reader Text
  | 0 => return []
  | n + 1 => do
      match ← takeIf p with
      | none => return []
      | some c =>
          skipSpaced
          return c :: (← takeSpaced p n)

def takeAllSpaced (p : Char → Bool) : Reader Text := do
  takeSpaced p (← rest).length

def isMeta (c : Char) : Bool :=
  "\\.+*?()|[]\x7b\x7d^$#&-~".toList.contains c

def isEscapable (c : Char) : Bool :=
  isMeta c || c.toNat < 0x80 && !(c.isAlphanum || c == '<' || c == '>')

def hexChar (digits : Nat) : Reader Char := do
  skipSpaced
  let braced ← accept "\x7b"
  let number ← if braced then
      skipSpaced
      let number ← takeAllSpaced (isDigitTo 16)
      expect "\x7d"
      skipSpaced
      pure number
    else
      let number ← takeSpaced (isDigitTo 16) digits
      guard (number.length = digits)
      pure number
  guard !number.isEmpty
  charOf? (valueTo 16 number)

def cutAt? (mark : String) (t : Text) : Option (Text × Text) :=
  (Text.find? mark.toList t).map fun o => (o.before, o.after)

def propertyClass? (name : Text) : Option CharSet :=
  match cutAt? "!=" name with
  | some (n, v) => (CharSet.propertyValue? n v).map .complement
  | none =>
      match (cutAt? ":" name).or (cutAt? "=" name) with
      | some (n, v) => CharSet.propertyValue? n v
      | none => CharSet.property? name

def property (negative : Bool) : Reader CharSet := do
  guard (← flags).wide
  skipSpaced
  let name ← if ← accept "\x7b" then
      skipSpaced
      let name ← takeAllSpaced (· != '\x7d')
      expect "\x7d"
      pure name
    else
      let c ← take
      guard (c != '\\')
      skipSpaced
      pure [c]
  let s ← propertyClass? name
  return .negateIf negative ((← flags).folded s)

def letterClass (negative : Bool) (wide narrow : CharSet) : Reader CharSet := do
  if (← flags).wide then return .negateIf negative wide
  guard !negative
  return narrow

def wordSet : Reader CharSet :=
  return if (← flags).wide then .word else .asciiWord

/-- A word edge, perhaps with its kind in braces. Other braces are left for a repetition. -/
def wordEdge : Reader Assertion := do
  let word ← wordSet
  if (← peek?) != some '\x7b' then return .wordEdge word
  let isKind (c : Char) := c.isAlpha || c == '-'
  let named ← lookAhead do
    discard take
    skipSpaced
    return isKind (← lookAhead take)
  if !named then return .wordEdge word
  discard take
  skipSpaced
  let kind ← takeAllSpaced isKind
  expect "\x7d"
  match String.ofList kind with
  | "start" => return .wordStart word
  | "end" => return .wordEnd word
  | "start-half" => return .wordStartHalf word
  | "end-half" => return .wordEndHalf word
  | _ => failure

def escape : Reader Escape := do
  let c ← take
  match c with
  | 'x' =>
      let d ← hexChar 2
      guard ((← flags).wide || decide (d.toNat < 0x80 ∨ 0x100 ≤ d.toNat))
      return .char d
  | 'u' => .char <$> hexChar 4
  | 'U' => .char <$> hexChar 8
  | 'p' => .set <$> property false
  | 'P' => .set <$> property true
  | 'd' => .set <$> letterClass false .digits .asciiDigits
  | 'D' => .set <$> letterClass true .digits .asciiDigits
  | 's' => .set <$> letterClass false .spaces .asciiSpaces
  | 'S' => .set <$> letterClass true .spaces .asciiSpaces
  | 'w' => .set <$> letterClass false .word .asciiWord
  | 'W' => .set <$> letterClass true .word .asciiWord
  | 'a' => return .char '\x07'
  | 'f' => return .char '\x0c'
  | 't' => return .char '\t'
  | 'n' => return .char '\n'
  | 'r' => return .char '\r'
  | 'v' => return .char '\x0b'
  | 'A' => return .assertion .textStart
  | 'z' => return .assertion .textEnd
  | 'b' => .assertion <$> wordEdge
  | 'B' => return .assertion (.noWordEdge (← wordSet))
  | '<' => return .assertion (.wordStart (← wordSet))
  | '>' => return .assertion (.wordEnd (← wordSet))
  | _ =>
      guard (isEscapable c)
      return .char c

end ListingRules.Pattern.Regular
