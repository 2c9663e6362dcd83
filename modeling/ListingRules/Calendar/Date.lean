import ListingRules.Text.Decimal
import ListingRules.Character.Whitespace

namespace ListingRules

def isLeapYear (year : Int) : Bool :=
  year % 4 == 0 && (year % 100 != 0 || year % 400 == 0)

def daysInMonth (year : Int) (month : Nat) : Nat :=
  if month = 2 then (if isLeapYear year then 29 else 28)
  else if month = 4 ∨ month = 6 ∨ month = 9 ∨ month = 11 then 30
  else 31

def IsDay (year : Int) (month day : Nat) : Prop :=
  -262143 ≤ year ∧ year ≤ 262142 ∧ 1 ≤ month ∧ month ≤ 12 ∧
    1 ≤ day ∧ day ≤ daysInMonth year month

instance (year : Int) (month day : Nat) : Decidable (IsDay year month day) := by
  unfold IsDay
  infer_instance

structure Date where
  year : Int
  month : Nat
  day : Nat
  isDay : IsDay year month day
  deriving DecidableEq, Repr

namespace Date

def ofParts? (year : Int) (month day : Nat) : Option Date :=
  if h : IsDay year month day then some ⟨year, month, day, h⟩ else none

theorem ofParts?_eq_some_iff {year : Int} {month day : Nat} {d : Date} :
    ofParts? year month day = some d ↔ d.year = year ∧ d.month = month ∧ d.day = day := by
  constructor
  · intro h
    simp only [ofParts?] at h
    split at h
    · obtain rfl := Option.some.inj h
      exact ⟨rfl, rfl, rfl⟩
    · simp at h
  · rintro ⟨rfl, rfl, rfl⟩
    simp [ofParts?, d.isDay]

def earliest : Date :=
  ⟨1602, 1, 1, by decide⟩

def yearText (year : Int) : Text :=
  if 0 ≤ year ∧ year ≤ 9999 then Decimal.padded 4 year.natAbs
  else (if year < 0 then '-' else '+') :: Decimal.padded 4 year.natAbs

def text (d : Date) : Text :=
  yearText d.year ++ '-' :: Decimal.padded 2 d.month ++ '-' :: Decimal.padded 2 d.day

def readDigits? (most : Nat) (t : Text) : Option (Nat × Text) := do
  let digits := (t.take most).takeWhile Char.isDigit
  let n ← Decimal.read? digits
  return (n, t.drop digits.length)

def readYear? (t : Text) : Option (Int × Text) :=
  match t with
  | '-' :: rest => (readDigits? rest.length rest).map fun (n, r) => (-(n : Int), r)
  | '+' :: rest => (readDigits? rest.length rest).map fun (n, r) => ((n : Int), r)
  | _ => (readDigits? 4 t).map fun (n, r) => ((n : Int), r)

def parse? (t : Text) : Option Date := do
  let skip := List.dropWhile Character.isWhitespace
  let (year, t) ← readYear? (skip t)
  let '-' :: t := skip t | none
  let (month, t) ← readDigits? 2 (skip t)
  let '-' :: t := skip t | none
  let (day, t) ← readDigits? 2 (skip t)
  if (skip t).isEmpty then ofParts? year month day else none

end Date

end ListingRules
