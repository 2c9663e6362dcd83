import ListingRules.Pattern.Extended.Bracket

/-!
Extended patterns: beside what regular patterns have, they look around, refer back to what a group
has matched, keep what they have matched without another try, and recur.
-/

namespace ListingRules.Pattern.Extended

open Reader TextReader

/-- The source with each quoted character escaped. Marks are left where quoting began or ended. -/
def unquote : Bool → Text → Text
  | false, '\\' :: 'Q' :: t => '\\' :: 'E' :: unquote true t
  | false, '\\' :: c :: t => '\\' :: c :: unquote false t
  | true, '\\' :: 'E' :: t => '\\' :: 'E' :: unquote false t
  | true, c :: t => if c.isAlphanum then c :: unquote true t else '\\' :: c :: unquote true t
  | false, c :: t => c :: unquote false t
  | _, [] => []

def isBetweenParts (c : Char) : Bool :=
  CharSet.asciiSpaces.contains c ||
    ['\u0085', '\u200e', '\u200f', '\u2028', '\u2029'].contains c

def skipBetween : Nat → Reader Unit
  | 0 => return
  | n + 1 => do
      if ← accept "(?#" then
        discard (TextReader.takeWhile (· != ')'))
        expect ")"
        skipBetween n
      else if ← accept "\\E" then skipBetween n
      else if (← flags).spaced then
        match ← takeIf fun c => isBetweenParts c || c == '#' with
        | none => return
        | some '#' =>
            discard (TextReader.takeWhile (· != '\n'))
            skipBetween n
        | some _ => skipBetween n

def skipBetweenParts : Reader Unit := do
  skipBetween (← rest).length

def groupName : Reader Text := do
  let name ← TextReader.takeWhile fun c => c == '_' || Character.isAlphanumeric c
  guard (name.head?.any fun c => c == '_' || Character.isLetter c)
  guard (name.length ≤ 32)
  return name

def checkedIndex (index : Nat) : Reader Nat := do
  match (← memory).known with
  | none => return index
  | some g =>
      guard (index ≤ g.count)
      return index

def indexOf (name : Text) : Reader Nat := do
  match (← memory).known with
  | none => return 0
  | some g => (g.names.find? (·.1 == name)).map (·.2)

def groupIndex : Reader Nat := do
  let count := (← groups).count
  if ← accept "+" then
    let n ← number 10
    guard (0 < n)
    checkedIndex (count + n)
  else if ← accept "-" then
    let n ← number 10
    guard (0 < n && n ≤ count)
    return count + 1 - n
  else
    checkedIndex (← number 10)

def isIndexNext : Reader Bool := do
  match ← peek?, ← peekSecond? with
  | some a, b => return a.isDigit || (a == '+' || a == '-') && b.any Char.isDigit
  | none, _ => return false

def groupReference : Reader Nat := do
  if ← isIndexNext then groupIndex else indexOf (← groupName)

def referenceTo (index : Nat) : Reader Node := do
  guard ((← memory).known.isNone || 0 < index)
  return .reference index (← flags).ignoreCase

def marked {α : Type} (r : Reader α) : Reader α := do
  if (← peek?) == some '<' then enclosed "<" ">" r else enclosed "'" "'" r

def lineBreak : Node :=
  .atomic (.choice (.sequence (.set (.single '\r')) (.set (.single '\n'))) (.set .verticalSpaces))

def cluster : Node :=
  .atomic (.sequence (.set .any)
    (.repetition (.set (.union .marks (.single '\u200d'))) 0 none true))

def escape : Reader (Node × Bool) := do
  let c ← take
  match c with
  | 'A' => return (.assertion .textStart, false)
  | 'z' => return (.assertion .textEnd, false)
  | 'Z' => return (.assertion .lastLineEnd, false)
  | 'G' => return (.assertion .searchStart, false)
  | 'b' => return (.assertion (.wordEdge .asciiWord), false)
  | 'B' => return (.assertion (.noWordEdge .asciiWord), false)
  | 'K' => return (.keepOut, false)
  | 'R' => return (lineBreak, true)
  | 'X' => return (cluster, true)
  | 'N' =>
      if ← accept "\x7bU+" then
        let d ← charOf? (← number 16)
        expect "\x7d"
        return (.set ((← flags).single d), true)
      return (.set (.complement (.single '\n')), true)
  | 'g' =>
      match ← peek? with
      | some '\x7b' => return (← referenceTo (← enclosed "\x7b" "\x7d" groupReference), true)
      | some '<' | some '\'' => return (.recursion (← marked groupReference), true)
      | _ => return (← referenceTo (← groupIndex), true)
  | 'k' =>
      if (← peek?) == some '\x7b' then
        return (← referenceTo (← indexOf (← enclosed "\x7b" "\x7d" groupName)), true)
      return (← referenceTo (← indexOf (← marked groupName)), true)
  | _ =>
      if c.isDigit && c != '0' then
        let digits := (c :: (← lookAhead (TextReader.takeWhile Char.isDigit)))
        let index := valueTo 10 digits
        if index < 10 || c == '8' || c == '9' || index ≤ (← groups).count then
          discard (TextReader.takeWhile Char.isDigit)
          return (← referenceTo (← checkedIndex index), true)
      match ← setEscape? c with
      | some s => return (.set s, true)
      | none =>
          let d ← (← charEscape? c)
          return (.set ((← flags).single d), true)

def bounds : Reader (Nat × Option Nat) :=
  enclosed "\x7b" "\x7d" do
    discard (TextReader.takeWhile Text.isSpaceOrTab)
    let least ← TextReader.takeWhile Char.isDigit
    discard (TextReader.takeWhile Text.isSpaceOrTab)
    if ← accept "," then
      discard (TextReader.takeWhile Text.isSpaceOrTab)
      let most ← TextReader.takeWhile Char.isDigit
      discard (TextReader.takeWhile Text.isSpaceOrTab)
      guard !(least.isEmpty && most.isEmpty)
      return (valueTo 10 least, if most.isEmpty then none else some (valueTo 10 most))
    guard !least.isEmpty
    return (valueTo 10 least, some (valueTo 10 least))

def repetition? : Reader (Option (Nat × Option Nat)) := do
  skipBetweenParts
  if ← accept "*" then return some (0, none)
  if ← accept "+" then return some (1, none)
  if ← accept "?" then return some (0, some 1)
  TextReader.optional bounds

def repeated (n : Node) (repeatable : Bool) : Reader Node := do
  match ← repetition? with
  | none => return n
  | some (least, most) =>
      guard repeatable
      guard (least ≤ 65535 && most.all fun m => decide (least ≤ m) && decide (m ≤ 65535))
      if ← accept "+" then return .atomic (.repetition n least most true)
      let reluctant ← accept "?"
      return .repetition n least most (reluctant == (← flags).swapGreed)

def setFlag? (on : Bool) (f : Flags) : Char → Option Flags
  | 'i' => some { f with ignoreCase := on }
  | 'm' => some { f with multiLine := on }
  | 's' => some { f with dotAll := on }
  | 'U' => some { f with swapGreed := on }
  | 'n' => some { f with namedOnly := on }
  | 'x' => some { f with spaced := on, spacedBrackets := on && f.spacedBrackets }
  | 'J' => some f
  | _ => none

/-- The flags after a row of letters, those behind a dash switched off. A doubled `x` also goes
for brackets. -/
def setFlags? (on : Bool) (f : Flags) : Text → Option Flags
  | [] => some f
  | '-' :: letters => if on then setFlags? false f letters else none
  | 'x' :: 'x' :: letters =>
      setFlags? on { f with spaced := on, spacedBrackets := on } letters
  | c :: letters => (setFlag? on f c).bind fun f => setFlags? on f letters

def changedFlags? (f : Flags) : Text → Option Flags
  | '^' :: letters => if letters.contains '-' then none
      else setFlags? true { swapGreed := f.swapGreed, ignoreCase := false } letters
  | letters => setFlags? true f letters

def openGroup (name : Option Text) : Reader Nat := do
  let g ← groups
  let index := g.count + 1
  setGroups { g with count := index }
  match name with
  | none => return index
  | some t =>
      guard !(g.names.any (·.1 == t))
      addName t index
      return index

def acceptAny : List String → Reader Bool
  | [] => return false
  | wanted :: more => do
      if ← accept wanted then return true else acceptAny more

def lookSign? : Reader (Option (Bool × Bool)) := do
  if ← acceptAny ["?=", "*pla:", "*positive_lookahead:"] then return some (false, false)
  if ← acceptAny ["?!", "*nla:", "*negative_lookahead:"] then return some (false, true)
  if ← acceptAny ["?<=", "*plb:", "*positive_lookbehind:"] then return some (true, false)
  if ← acceptAny ["?<!", "*nlb:", "*negative_lookbehind:"] then return some (true, true)
  return none

def lookBehindNode (negative : Bool) (body : Node) : Reader Node := do
  guard body.width?.isSome
  return .lookBehind negative body

mutual

/-- Alternatives up to the end of their group, with nested groups to a depth. If a number is
given, each of them counts its groups from there. -/
def alternatives : Nat → Option Nat → Reader Node
  | 0, _ => failure
  | depth + 1, restart => do
      let first ← parts depth []
      if ← accept "|" then
        let reached := (← groups).count
        if let some n := restart then setGroups { ← groups with count := n }
        let others ← alternatives depth restart
        setGroups { ← groups with count := max reached (← groups).count }
        return .choice first others
      return first

def parts : Nat → List Node → Reader Node
  | 0, _ => failure
  | depth + 1, done => do
      skipBetweenParts
      match ← peek? with
      | none | some '|' | some ')' => return .sequenceAll done.reverse
      | some _ =>
          match ← part depth with
          | none => parts depth done
          | some (n, repeatable) => parts depth ((← repeated n repeatable) :: done)

def part : Nat → Reader (Option (Node × Bool))
  | 0 => failure
  | depth + 1 => do
      if (← peek?) == some '\x7b' && (← lookAhead (TextReader.optional bounds)).isSome then failure
      let c ← take
      let f ← flags
      match c with
      | '(' => (·.map fun n => (n, true)) <$> group depth
      | '[' => return some (.set (← bracket), true)
      | '*' | '+' | '?' => failure
      | '\\' => some <$> escape
      | '.' => return some (.set (if f.dotAll then .any else .complement (.single '\n')), true)
      | '^' => return some (.assertion (if f.multiLine then .innerLineStart else .textStart), false)
      | '$' => return some (.assertion (if f.multiLine then .lineEnd else .lastLineEnd), false)
      | _ => return some (.set (f.single c), true)

def inside : Nat → Option Nat → Reader Node
  | 0, _ => failure
  | depth + 1, restart => do
      let outer ← flags
      let body ← alternatives depth restart
      expect ")"
      setFlags outer
      return body

def look? : Nat → Reader (Option Node)
  | 0 => failure
  | depth + 1 => do
      match ← lookSign? with
      | none => return none
      | some (behind, negative) =>
          let body ← inside depth none
          if behind then some <$> lookBehindNode negative body
          else return some (.lookAhead negative body)

def branches : Nat → Reader (Node × Node)
  | 0 => failure
  | depth + 1 => do
      let outer ← flags
      let yes ← parts depth []
      let no ← if ← accept "|" then parts depth [] else pure .empty
      expect ")"
      setFlags outer
      return (yes, no)

def conditional : Nat → Reader Node
  | 0 => failure
  | depth + 1 => do
      match ← look? depth with
      | some test =>
          let (yes, no) ← branches depth
          match test with
          | .lookAhead negative body =>
              return .choice (.sequence test yes) (.sequence (.lookAhead (!negative) body) no)
          | .lookBehind negative body =>
              return .choice (.sequence test yes) (.sequence (.lookBehind (!negative) body) no)
          | _ => failure
      | none =>
          let index ← if ← accept "DEFINE" then pure 0
            else if (← peek?).any fun c => c == '<' || c == '\'' then
              do indexOf (← marked groupName)
            else groupReference
          expect ")"
          let (yes, no) ← branches depth
          return .ifGroup index yes no

def group : Nat → Reader (Option Node)
  | 0 => failure
  | depth + 1 => do
      match ← look? depth with
      | some n => return some n
      | none =>
          if ← acceptAny ["*F)", "*FAIL)"] then return some (.set .none)
          if ← accept "*atomic:" then return some (.atomic (← inside depth none))
          if ← accept "*" then failure
          if ← accept "?(" then return some (← conditional depth)
          if ← accept "?:" then return some (← inside depth none)
          if ← accept "?|" then return some (← inside depth (some (← groups).count))
          if ← accept "?>" then return some (.atomic (← inside depth none))
          if ← accept "?P=" then
            let index ← indexOf (← groupName)
            expect ")"
            return some (← referenceTo index)
          if (← accept "?P>") || (← accept "?&") then
            let index ← indexOf (← groupName)
            expect ")"
            return some (.recursion index)
          if ← accept "?R" then
            expect ")"
            return some (.recursion 0)
          let name ← if ← accept "?P<" then some <$> groupName <* expect ">"
            else if ← accept "?<" then some <$> groupName <* expect ">"
            else if ← accept "?'" then some <$> groupName <* expect "'"
            else pure none
          if name.isNone && (← accept "?") then
            if ← isIndexNext then
              let index ← groupIndex
              expect ")"
              return some (.recursion index)
            let outer ← flags
            let letters ← TextReader.takeWhile fun c => c != ':' && c != ')'
            setFlags (← changedFlags? outer letters)
            if (← take) == ')' then return none
            let body ← alternatives depth none
            expect ")"
            setFlags outer
            return some body
          if name.isNone && (← flags).namedOnly then return some (← inside depth none)
          let index ← openGroup name
          return some (.group index (← inside depth none))

end

def parseWith (known : Option Groups) (source : Text) : Option (Node × Groups) := do
  let (n, said) ← (alternatives (4 * source.length + 8) none).readAll source { known }
  return (n, said.groups)

/-- The pattern that a source stands for, if it is an extended one. A first reading finds the
groups, to which a second one refers. -/
def parse? (source : Text) : Option Node := do
  let text := unquote false source
  let (_, groups) ← parseWith none text
  return (← parseWith (some groups) text).1

end ListingRules.Pattern.Extended
