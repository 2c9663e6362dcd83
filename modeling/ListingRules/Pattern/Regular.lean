import ListingRules.Pattern.Regular.Bracket

/-!
Regular patterns: alternatives, repetitions, groups that only group, classes and edges. What a
regular pattern matches does not depend on what a part of it has matched before.
-/

namespace ListingRules.Pattern.Regular

open Reader TextReader

def setFlag? (on : Bool) (f : Flags) : Char → Option Flags
  | 'i' => some { f with ignoreCase := on }
  | 'm' => some { f with multiLine := on }
  | 's' => some { f with dotAll := on }
  | 'U' => some { f with swapGreed := on }
  | 'u' => some { f with wide := on }
  | 'R' => some { f with anyLineEnd := on }
  | 'x' => some { f with spaced := on }
  | _ => none

def setFlags? (f : Flags) (letters : Text) : Option Flags := do
  guard letters.Nodup
  guard (letters.getLast? != some '-')
  let on ← (letters.takeWhile (· != '-')).foldlM (setFlag? true) f
  ((letters.dropWhile (· != '-')).drop 1).foldlM (setFlag? false) on

def groupName : Reader Unit := do
  let name ← TextReader.takeWhile fun c =>
    c == '_' || c == '.' || c == '[' || c == ']' || Character.isAlphanumeric c
  expect ">"
  guard (name.head?.any fun c => c == '_' || Character.isAlphabetic c)
  guard !((← groups).names.any (·.1 == name))
  addName name 0

def count? : Reader (Option Nat) := do
  discard (TextReader.takeWhile Character.isWhitespace)
  let number ← takeAllSpaced Char.isDigit
  discard (TextReader.takeWhile Character.isWhitespace)
  if number.isEmpty then return none
  guard (valueTo 10 number < 4294967296)
  return some (valueTo 10 number)

def bounds : Reader (Nat × Option Nat) := do
  skipSpaced
  let least ← (← count?)
  if ← accept "," then
    skipSpaced
    if ← accept "\x7d" then return (least, none)
    let most ← (← count?)
    expect "\x7d"
    guard (least ≤ most)
    return (least, some most)
  else
    expect "\x7d"
    return (least, some least)

def repetition? : Reader (Option (Nat × Option Nat)) := do
  skipSpaced
  if ← accept "*" then return some (0, none)
  if ← accept "+" then return some (1, none)
  if ← accept "?" then return some (0, some 1)
  if ← accept "\x7b" then
    let b ← bounds
    skipSpaced
    return some b
  return none

def repeated : Nat → Node → Reader Node
  | 0, _ => failure
  | fuel + 1, n => do
      match ← repetition? with
      | none => return n
      | some (least, most) =>
          let reluctant ← accept "?"
          repeated fuel (.repetition n least most (reluctant == (← flags).swapGreed))

def Escape.toNode (f : Flags) : Escape → Node
  | .char c => .set (f.single c)
  | .set s => .set s
  | .assertion a => .assertion a

def dot : Reader Node := do
  let f ← flags
  guard f.wide
  return .set (if f.dotAll then .any
    else .complement (.ofChars (if f.anyLineEnd then ['\r', '\n'] else ['\n'])))

def lineEdge (atText atLine atAnyLine : Assertion) : Reader Node := do
  let f ← flags
  return .assertion (if !f.multiLine then atText else if f.anyLineEnd then atAnyLine else atLine)

mutual

def alternatives : Nat → Reader Node
  | 0 => failure
  | depth + 1 => do
      let first ← parts depth []
      if ← accept "|" then return .choice first (← alternatives depth)
      return first

def parts : Nat → List Node → Reader Node
  | 0, _ => failure
  | depth + 1, done => do
      skipSpaced
      match ← peek? with
      | none | some '|' | some ')' => return .sequenceAll done.reverse
      | some _ =>
          match ← part depth with
          | none => parts depth done
          | some n => parts depth ((← repeated depth n) :: done)

def part : Nat → Reader (Option Node)
  | 0 => failure
  | depth + 1 => do
      let c ← take
      match c with
      | '(' => group depth
      | '[' => (some <| .set ·) <$> bracket depth
      | '*' | '+' | '?' | '\x7b' => failure
      | '\\' => return some ((← escape).toNode (← flags))
      | '.' => some <$> dot
      | '^' => some <$> lineEdge .textStart .lineStart .anyLineStart
      | '$' => some <$> lineEdge .textEnd .lineEnd .anyLineEnd
      | _ => return some (.set ((← flags).single c))

def group : Nat → Reader (Option Node)
  | 0 => failure
  | depth + 1 => do
      skipSpaced
      let outer ← flags
      let isFlagged ← do
        if ← accept "?P<" then
          groupName
          pure false
        else if ← accept "?<" then
          groupName
          pure false
        else accept "?"
      let mut onlyFlags := false
      if isFlagged then
        let letters ← TextReader.takeWhile fun c => c != ':' && c != ')'
        setFlags (← setFlags? outer letters)
        onlyFlags := (← take) == ')'
        guard (!onlyFlags || !letters.isEmpty)
      if onlyFlags then return none
      let body ← alternatives depth
      expect ")"
      setFlags outer
      return some body

end

def parse? (source : Text) : Option Node :=
  ((alternatives (4 * source.length + 8)).readAll source {}).map (·.1)

end ListingRules.Pattern.Regular
