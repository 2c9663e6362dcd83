import ListingRules.Text.Blank
import ListingRules.Text.Reader

namespace ListingRules.Toml

open TextReader

abbrev Reader (σ : Type) := TextReader σ

variable {σ : Type}

def isControl (c : Char) : Bool :=
  c.toNat < 0x20 && c != '\t' || c == '\x7f'

def acceptLineEnd : Reader σ Bool := do
  if ← accept "\r\n" then return true else accept "\n"

def charOfDigits (count : Nat) : Reader σ Char := do
  let digits ← takeUpTo (isDigitTo 16) count
  guard (digits.length = count)
  charOf? (valueTo 16 digits)

def escaped : Reader σ Char := do
  match ← take with
  | 'b' => return '\x08'
  | 't' => return '\t'
  | 'n' => return '\n'
  | 'f' => return '\x0c'
  | 'r' => return '\r'
  | 'e' => return '\x1b'
  | '"' => return '"'
  | '\\' => return '\\'
  | 'x' => charOfDigits 2
  | 'u' => charOfDigits 4
  | 'U' => charOfDigits 8
  | _ => failure

def lineText (quote : Char) : Nat → Reader σ Text
  | 0 => failure
  | n + 1 => do
      let c ← take
      if c = quote then return []
      guard !(isControl c)
      let c ← if c = '\\' ∧ quote = '"' then escaped else pure c
      return c :: (← lineText quote n)

def skipBlanksAndLineEnds : Nat → Reader σ Unit
  | 0 => return
  | n + 1 => do
      discard (TextReader.takeWhile Text.isSpaceOrTab)
      if ← acceptLineEnd then skipBlanksAndLineEnds n

def endsLine : Reader σ Bool :=
  lookAhead do
    discard (TextReader.takeWhile Text.isSpaceOrTab)
    acceptLineEnd

/-- A text on many lines, from behind its opening quotes. Up to two quotes may stand before the
closing ones. -/
def manyLineText (quote : Char) : Nat → Reader σ Text
  | 0 => failure
  | n + 1 => do
      let quotes ← lookAhead (takeUpTo (· == quote) 5)
      if 3 ≤ quotes.length then
        discard (takeUpTo (· == quote) 5)
        return quotes.drop 3
      let c ← take
      if c = '\r' then
        guard ((← peek?) == some '\n')
        return c :: (← manyLineText quote n)
      if c = '\n' then return c :: (← manyLineText quote n)
      guard !(isControl c)
      if c = '\\' ∧ quote = '"' then
        if ← endsLine then
          skipBlanksAndLineEnds (n + 1)
          manyLineText quote n
        else return (← escaped) :: (← manyLineText quote n)
      else return c :: (← manyLineText quote n)

def quotedLine (quote : Char) : Reader σ Text := do
  guard ((← take) == quote)
  lineText quote ((← rest).length + 1)

/-- A quoted text on one line or on many. A line end behind three opening quotes does not count. -/
def quoted (quote : Char) : Reader σ Text := do
  if ← accept (String.ofList [quote, quote, quote]) then
    discard acceptLineEnd
    manyLineText quote ((← rest).length + 1)
  else quotedLine quote

end ListingRules.Toml
