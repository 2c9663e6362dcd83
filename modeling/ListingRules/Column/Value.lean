import ListingRules.Calendar.Time
import ListingRules.Column.Kind

namespace ListingRules

inductive Value where
  | empty
  | text (t : Text)
  | number (n : Int)
  | date (d : Date)
  | time (t : Time)
  deriving DecidableEq, Repr

namespace Value

def isEmpty : Value → Bool
  | empty => true
  | _ => false

def shown : Value → Text
  | empty => []
  | text t => t
  | number n => Decimal.ofInt n
  | date d => d.text
  | time t => t.text

def defaultFor : ColumnKind → Value
  | .size => number 0
  | .date => date Date.earliest
  | .time => time Time.midnight
  | .text | .fileType => text []
  | .name | .extension | .generalDate | .generalTime | .number => empty

def parseDate? (t : Text) : Option Date :=
  match t.splitOn '.' with
  | [day, month, year] => do
      let day ← Decimal.read? day
      let month ← Decimal.read? month
      let year ← Decimal.read? year
      if year < 1602 then none else Date.ofParts? year month day
  | _ => none

def parseTime? (t : Text) : Option Time :=
  match t.splitOn ':' with
  | [hour, minute] => do
      Time.ofParts? (← Decimal.read? hour) (← Decimal.read? minute) 0 0
  | [hour, minute, second] => do
      Time.ofParts? (← Decimal.read? hour) (← Decimal.read? minute) (← Decimal.read? second) 0
  | _ => none

def parseNumber? : Text → Option Int
  | '+' :: digits => (Decimal.read? digits).map Int.ofNat
  | '-' :: digits => (Decimal.read? digits).map fun n : Nat => -(n : Int)
  | digits => (Decimal.read? digits).map Int.ofNat

def parseSize? : Text → Option Int
  | '+' :: digits => (Decimal.read? digits).map Int.ofNat
  | digits => (Decimal.read? digits).map Int.ofNat

def parse? : ColumnKind → Text → Option Value
  | .name, _ | .extension, _ => none
  | .text, t | .fileType, t => some (text t)
  | .size, t => (parseSize? t).map number
  | .number, t => (parseNumber? t).map number
  | .date, t | .generalDate, t => (parseDate? t).map date
  | .time, t | .generalTime, t => (parseTime? t).map time

def Fits : Value → ColumnKind → Prop
  | empty, k => k = .name ∨ k = .extension ∨ k = .generalDate ∨ k = .generalTime ∨ k = .number
  | text _, k => k = .text ∨ k = .fileType
  | number n, k => k = .number ∨ k = .size ∧ 0 ≤ n
  | date d, k => (k = .date ∨ k = .generalDate) ∧ 1602 ≤ d.year
  | time _, k => k = .time ∨ k = .generalTime

theorem fits_defaultFor (k : ColumnKind) : Fits (defaultFor k) k := by
  cases k <;> simp [defaultFor, Fits, Date.earliest]

theorem parseSize?_nonneg {t : Text} {n : Int} (h : parseSize? t = some n) : 0 ≤ n := by
  unfold parseSize? at h
  split at h <;>
    · simp only [Option.map_eq_some_iff] at h
      obtain ⟨m, -, rfl⟩ := h
      exact Int.natCast_nonneg m

theorem parseDate?_year {t : Text} {d : Date} (h : parseDate? t = some d) : 1602 ≤ d.year := by
  unfold parseDate? at h
  split at h
  · simp only [Option.bind_eq_bind, Option.bind_eq_some_iff] at h
    obtain ⟨day, -, month, -, year, -, h⟩ := h
    split at h
    · simp at h
    · have := (Date.ofParts?_eq_some_iff.1 h).1
      omega
  · simp at h

theorem fits_of_parse? {k : ColumnKind} {t : Text} {v : Value} (h : parse? k t = some v) :
    Fits v k := by
  cases k <;> simp only [parse?, Option.map_eq_some_iff, Option.some.injEq, reduceCtorEq] at h
  case size => obtain ⟨n, hn, rfl⟩ := h; simp [Fits, parseSize?_nonneg hn]
  case date => obtain ⟨d, hd, rfl⟩ := h; simp [Fits, parseDate?_year hd]
  case time => obtain ⟨_, -, rfl⟩ := h; simp [Fits]
  case fileType => subst h; simp [Fits]
  case text => subst h; simp [Fits]
  case generalDate => obtain ⟨d, hd, rfl⟩ := h; simp [Fits, parseDate?_year hd]
  case generalTime => obtain ⟨_, -, rfl⟩ := h; simp [Fits]
  case number => obtain ⟨_, -, rfl⟩ := h; simp [Fits]

end Value

end ListingRules
