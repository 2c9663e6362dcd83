namespace ListingRules.Character

structure Stretch where
  first : Nat
  last : Nat
  step : Nat
  deriving DecidableEq, Repr

def Stretch.contains (s : Stretch) (n : Nat) : Bool :=
  decide (s.first ≤ n) && decide (n ≤ s.last) && (n - s.first) % s.step == 0

def inStretches (table : List Stretch) (c : Char) : Bool :=
  table.any (·.contains c.toNat)

structure Shift where
  stretch : Stretch
  distance : Int
  deriving DecidableEq, Repr

def shifted (table : List Shift) (c : Char) : Char :=
  match table.find? (·.stretch.contains c.toNat) with
  | some s => Char.ofNat (c.toNat + s.distance).toNat
  | none => c

end ListingRules.Character
