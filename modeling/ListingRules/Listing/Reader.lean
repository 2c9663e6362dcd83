import ListingRules.Character.Alphabetic
import ListingRules.Calendar.Time
import ListingRules.Text.Cursor

namespace ListingRules.Cursor

open Character (isAlphabetic isAlphanumeric)

def nextIsAlphabetic (c : Cursor) : Bool :=
  c.ahead.head?.any isAlphabetic

def expect? (x : Char) (c : Cursor) : Option Cursor :=
  if c.ahead.head? = some x then some c.next else none

def forward? (p : Char → Bool) : Nat → Cursor → Option Cursor
  | 0, c => some c
  | n + 1, c => if c.ahead.head?.any p then forward? p n c.next else none

def backward? : Nat → Cursor → Option Cursor
  | 0, c => some c
  | n + 1, c => c.back?.bind (backward? n)

def digits? (c : Cursor) : Option (Nat × Cursor) :=
  (Decimal.read? (c.ahead.takeWhile Char.isDigit)).map fun n => (n, c.skipWhile Char.isDigit)

def sign (c : Cursor) : Bool × Cursor :=
  match c.ahead.head? with
  | some '+' => (false, c.next)
  | some '-' => (true, c.next)
  | _ => (false, c)

def signedDigits? (c : Cursor) : Option (Int × Cursor) :=
  let (negative, d) := c.sign
  d.digits?.map fun (n, e) => (if negative then -(n : Int) else n, e)

/-- A number with an optional sign, among whose digits separators may stand; some may also stand
before it. -/
def separatedDigits? (separators : Text) (c : Cursor) : Option (Int × Cursor) := do
  let isSign : Char → Bool := fun x => x == '+' || x == '-'
  let isPart : Char → Bool := fun x => x.isDigit || separators.contains x
  guard (c.ahead.head?.any fun x => isSign x || isPart x)
  let (negative, d) :=
    (c.skipWhile fun x => !isSign x && !x.isDigit && separators.contains x).sign
  let n := Decimal.value ((d.ahead.takeWhile isPart).filter Char.isDigit)
  guard (n ≤ Decimal.maxNumber)
  return (if negative then -(n : Int) else n, d.skipWhile isPart)

def seconds? (c : Cursor) : Option (Nat × Nat × Cursor) :=
  match c.expect? ':' with
  | none => some (0, 0, c)
  | some c => do
      let (second, c) ← c.digits?
      match c.expect? '.' with
      | none => return (second, 0, c)
      | some c => do
          let (milli, c) ← c.digits?
          return (second, milli, c)

/-- The hour on a clock of twenty-four hours, when the half of the day may be told behind a time
by `a`, `am`, `p` or `pm`. -/
def halfOfDay (hour : Nat) (c : Cursor) : Nat × Cursor :=
  let skipM (c : Cursor) : Cursor :=
    if (c.ahead.head?.map Char.toLower) = some 'm' then c.next else c
  match c.ahead.head?.map Char.toLower with
  | some 'a' => (hour, skipM c.next)
  | some 'p' => (if hour < 12 then hour + 12 else hour, skipM c.next)
  | _ => (hour, c)

def time? (c : Cursor) : Option (Time × Cursor) := do
  let (hour, c) ← c.digits?
  guard (hour < 24)
  let c ← c.expect? ':'
  let (minute, c) ← c.digits?
  let (second, milli, c) ← c.seconds?
  let (hour, c) := c.halfOfDay hour
  guard (!c.ahead.head?.any isAlphanumeric)
  let time ← Time.ofParts? hour minute second milli
  return (time, c)

inductive YearOrTime where
  | year (y : Nat)
  | time (t : Time)
  deriving DecidableEq, Repr

/-- A year from 1602 to 9999, or a time of day without seconds. The year 1601 counts as 1602. -/
def yearOrTime? (c : Cursor) : Option (YearOrTime × Cursor) := do
  let (first, c) ← c.digits?
  if first < 24 ∧ c.ahead.head? = some ':' then
    let (minute, c) ← c.next.digits?
    guard (!c.nextIsAlphabetic)
    let time ← Time.ofParts? first minute 0 0
    return (.time time, c)
  else
    guard (1601 ≤ first ∧ first < 10000 ∧ !c.nextIsAlphabetic)
    return (.year (if first = 1601 then 1602 else first), c)

def device? (c : Cursor) : Option Cursor := do
  guard (c.ahead.head?.any Char.isDigit)
  let c := (c.skipWhile Char.isDigit).skipWhile Text.isBlank
  let c := (← c.expect? ',').skipWhile Text.isBlank
  guard (c.ahead.head?.any Char.isDigit)
  let c := c.skipWhile Char.isDigit
  guard (!c.nextIsAlphabetic)
  return c

end ListingRules.Cursor
