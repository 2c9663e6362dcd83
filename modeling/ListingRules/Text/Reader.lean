import ListingRules.Text.Basic

namespace ListingRules

structure Remaining (σ : Type) where
  rest : Text
  memory : σ
  deriving DecidableEq, Repr

abbrev TextReader (σ : Type) := StateT (Remaining σ) Option

namespace TextReader

variable {σ α : Type}

def rest : TextReader σ Text :=
  return (← get).rest

def setRest (t : Text) : TextReader σ Unit :=
  modify fun s => { s with rest := t }

def memory : TextReader σ σ :=
  return (← get).memory

def setMemory (m : σ) : TextReader σ Unit :=
  modify fun s => { s with memory := m }

def peek? : TextReader σ (Option Char) :=
  return (← rest).head?

def peekSecond? : TextReader σ (Option Char) :=
  return (← rest)[1]?

def take : TextReader σ Char := do
  match ← rest with
  | [] => failure
  | c :: t =>
      setRest t
      return c

def takeIf (p : Char → Bool) : TextReader σ (Option Char) := do
  match ← peek? with
  | some c => if p c then some <$> take else return none
  | none => return none

def takeWhile (p : Char → Bool) : TextReader σ Text := do
  let t ← rest
  setRest (t.dropWhile p)
  return t.takeWhile p

def takeUpTo (p : Char → Bool) : Nat → TextReader σ Text
  | 0 => return []
  | n + 1 => do
      match ← takeIf p with
      | none => return []
      | some c => return c :: (← takeUpTo p n)

def accept (wanted : String) : TextReader σ Bool := do
  let t ← rest
  if wanted.toList.isPrefixOf t then
    setRest (t.drop wanted.length)
    return true
  else return false

def expect (wanted : String) : TextReader σ Unit := do
  guard (← accept wanted)

def lookAhead (r : TextReader σ α) : TextReader σ α := do
  let s ← get
  let a ← r
  set s
  return a

def optional (r : TextReader σ α) : TextReader σ (Option α) :=
  fun s =>
    match r s with
    | some (a, t) => some (some a, t)
    | none => some (none, s)

def enclosed (opening closing : String) (r : TextReader σ α) : TextReader σ α := do
  expect opening
  let a ← r
  expect closing
  return a

def readAll (r : TextReader σ α) (t : Text) (m : σ) : Option (α × σ) := do
  let (a, s) ← r.run ⟨t, m⟩
  guard s.rest.isEmpty
  return (a, s.memory)

end TextReader

def isDigitTo (base : Nat) (c : Char) : Bool :=
  if c.isDigit then decide (c.toNat - '0'.toNat < base)
  else base == 16 && ('a' ≤ c && c ≤ 'f' || 'A' ≤ c && c ≤ 'F')

def valueTo (base : Nat) (digits : Text) : Nat :=
  let digit (c : Char) :=
    if c.isDigit then c.toNat - '0'.toNat else c.toLower.toNat - 'a'.toNat + 10
  digits.foldl (fun n c => base * n + digit c) 0

def charOf? (n : Nat) : Option Char :=
  if n.isValidChar then some (Char.ofNat n) else none

end ListingRules
