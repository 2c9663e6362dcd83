import ListingRules.Pattern.Extended.Escape

namespace ListingRules.Pattern.Extended

open Reader TextReader

def isNamed : Text → Bool
  | ':' :: ']' :: _ => true
  | '\\' :: c :: rest => if c == ']' || c == '\\' then isNamed rest else isNamed (c :: rest)
  | c :: rest => if c == ']' || c == '[' then false else isNamed rest
  | [] => false

/-- An ASCII class by its name. Where case is ignored, it does not part small letters from
capitals. -/
def namedClass? : Reader (Option CharSet) := do
  match (← rest) with
  | '[' :: ':' :: rest =>
      if !isNamed rest then return none
      expect "[:"
      let negative ← accept "^"
      let name ← TextReader.takeWhile Char.isAlpha
      expect ":]"
      let bothCases := (← flags).ignoreCase && (name == "lower".toList || name == "upper".toList)
      let s ← CharSet.named? (if bothCases then "alpha".toList else name)
      return some (.negateIf negative s)
  | _ => return none

def unit : Reader (Char ⊕ CharSet) := do
  match ← namedClass? with
  | some s => return .inr s
  | none =>
      let c ← take
      if c != '\\' then return .inl c
      let e ← take
      if e == 'b' then return .inl '\x08'
      if e == '8' || e == '9' then return .inl e
      match ← setEscape? e with
      | some s => return .inr s
      | none =>
          match ← charEscape? e with
          | some d => return .inl d
          | none => failure

def skipInBracket : Nat → Reader Unit
  | 0 => return
  | n + 1 => do
      if (← flags).spacedBrackets then discard (TextReader.takeWhile Text.isSpaceOrTab)
      if ← accept "\\E" then skipInBracket n

def skipBetweenMembers : Reader Unit := do
  skipInBracket (← rest).length

def members : Nat → CharSet → Reader CharSet
  | 0, _ => failure
  | n + 1, done => do
      skipBetweenMembers
      if ← accept "]" then return done
      let first ← unit
      skipBetweenMembers
      if (← peek?) == some '-' && (← peekSecond?) != some ']' then
        discard take
        skipBetweenMembers
        match first, ← unit with
        | .inl a, .inl b =>
            guard (a ≤ b)
            members n (.union done ((← flags).folded (.range a b)))
        | _, _ => failure
      else
        match first with
        | .inl a => members n (.union done ((← flags).single a))
        | .inr s => members n (.union done s)

/-- A class from behind its opening bracket. A closing bracket in first place is a member. -/
def bracket : Reader CharSet := do
  let negative ← accept "^"
  skipBetweenMembers
  let first ← if ← accept "]" then pure (.single ']') else pure CharSet.none
  return .negateIf negative (← members ((← rest).length + 1) first)

end ListingRules.Pattern.Extended
