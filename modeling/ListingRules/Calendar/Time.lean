import ListingRules.Calendar.Date

namespace ListingRules

def IsTimeOfDay (hour minute second milli : Nat) : Prop :=
  hour < 24 ∧ minute < 60 ∧ second < 60 ∧ milli < 1000

instance (hour minute second milli : Nat) : Decidable (IsTimeOfDay hour minute second milli) := by
  unfold IsTimeOfDay
  infer_instance

structure Time where
  hour : Nat
  minute : Nat
  second : Nat
  milli : Nat
  isTimeOfDay : IsTimeOfDay hour minute second milli
  deriving DecidableEq, Repr

namespace Time

def ofParts? (hour minute second milli : Nat) : Option Time :=
  if h : IsTimeOfDay hour minute second milli then some ⟨hour, minute, second, milli, h⟩
  else none

theorem ofParts?_eq_some_iff {hour minute second milli : Nat} {t : Time} :
    ofParts? hour minute second milli = some t ↔
      t.hour = hour ∧ t.minute = minute ∧ t.second = second ∧ t.milli = milli := by
  constructor
  · intro h
    simp only [ofParts?] at h
    split at h
    · obtain rfl := Option.some.inj h
      exact ⟨rfl, rfl, rfl, rfl⟩
    · simp at h
  · rintro ⟨rfl, rfl, rfl, rfl⟩
    simp [ofParts?, t.isTimeOfDay]

def midnight : Time :=
  ⟨0, 0, 0, 0, by decide⟩

def text (t : Time) : Text :=
  Decimal.padded 2 t.hour ++ ':' :: Decimal.padded 2 t.minute ++
    ':' :: Decimal.padded 2 t.second

def textWithMillis (t : Time) : Text :=
  if t.milli = 0 then t.text else t.text ++ '.' :: Decimal.padded 3 t.milli

end Time

structure Moment where
  date : Date
  time : Time
  deriving DecidableEq, Repr

namespace Moment

def compactText (m : Moment) : Text :=
  m.date.text ++ 'T' :: m.time.textWithMillis

def plainText (m : Moment) : Text :=
  m.date.text ++ ' ' :: m.time.text

end Moment

end ListingRules
