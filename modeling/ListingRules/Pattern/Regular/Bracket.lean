import ListingRules.Pattern.Regular.Escape

namespace ListingRules.Pattern.Regular

open Reader TextReader

def namedClass? : Text → Option ((CharSet × Bool) × Text)
  | '[' :: ':' :: rest =>
      let negative := rest.head? == some '^'
      let rest := if negative then rest.drop 1 else rest
      match rest.dropWhile (· != ':') with
      | ':' :: ']' :: after =>
          (CharSet.named? (rest.takeWhile (· != ':'))).map fun s => ((s, negative), after)
      | _ => none
  | _ => none

def namedClass : Reader (CharSet × Bool) := do
  let (s, after) ← namedClass? (← rest)
  setRest after
  return s

def unit : Reader Escape := do
  if ← accept "\\" then escape else .char <$> take

def classChar (c : Char) : Reader Char := do
  guard ((← flags).wide || decide (c.toNat < 0x80))
  return c

def member : Reader CharSet := do
  let first ← unit
  skipSpaced
  let second ← peek?
  guard second.isSome
  let isRange ← if second == some '-' then lookAhead do
      discard take
      skipSpaced
      let third ← peek?
      return third != some ']' && third != some '-'
    else pure false
  if isRange then
    discard take
    skipSpaced
    match first, ← unit with
    | .char a, .char b =>
        guard (a ≤ b)
        return .range (← classChar a) (← classChar b)
    | _, _ => failure
  else
    match first with
    | .char a => .single <$> classChar a
    | .set s => return s
    | .assertion _ => failure

def operator? : Reader (Option (CharSet → CharSet → CharSet)) := do
  if ← accept "&&" then return some .inter
  if ← accept "--" then return some .diff
  if ← accept "~~" then return some .symmDiff
  return none

mutual

def bracket : Nat → Reader CharSet
  | 0 => failure
  | depth + 1 => do
      skipSpaced
      let negative ← accept "^"
      if negative then skipSpaced
      let dashes ← takeAllSpaced (· == '-')
      let closing ← if dashes.isEmpty then takeSpaced (· == ']') 1 else pure []
      let s ← members depth (.ofChars (dashes.take 1 ++ closing)) id
      guard ((← flags).wide || !negative)
      return .negateIf negative ((← flags).folded s)

def members : Nat → CharSet → (CharSet → CharSet) → Reader CharSet
  | 0, _, _ => failure
  | depth + 1, done, finish => do
      skipSpaced
      match ← TextReader.optional namedClass with
      | some (s, negative) =>
          guard ((← flags).wide || !negative)
          members depth (.union done (.negateIf negative ((← flags).folded s))) finish
      | none =>
          if ← accept "[" then members depth (.union done (← bracket depth)) finish
          else if ← accept "]" then return finish done
          else
            match ← operator? with
            | some op =>
                let f ← flags
                let left := f.folded (finish done)
                members depth .none fun right => op left (f.folded right)
            | none => members depth (.union done (← member)) finish

end

end ListingRules.Pattern.Regular
