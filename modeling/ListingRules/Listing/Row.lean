import ListingRules.Column.Set

namespace ListingRules.Listing

structure DateParts where
  day : Option Nat := none
  month : Option Nat := none
  year : Option Int := none
  yearIsGuess : Bool := false
  deriving DecidableEq, Repr

namespace DateParts

def whole? (d : DateParts) : Option (Nat × Nat × Int) := do
  return (← d.day, ← d.month, ← d.year)

theorem whole?_eq_some_iff {d : DateParts} {day month : Nat} {year : Int} :
    d.whole? = some (day, month, year) ↔
      d.day = some day ∧ d.month = some month ∧ d.year = some year := by
  simp only [whole?, Option.bind_eq_bind, Option.bind_eq_some_iff, Option.pure_def,
    Option.some.injEq, Prod.mk.injEq]
  constructor
  · rintro ⟨_, hday, _, hmonth, _, hyear, rfl, rfl, rfl⟩
    exact ⟨hday, hmonth, hyear⟩
  · rintro ⟨hday, hmonth, hyear⟩
    exact ⟨day, hday, month, hmonth, year, hyear, rfl, rfl, rfl⟩

/-- The date that the parts stand for. A guessed year is one too high for a day that is still to
come. The outer option tells whether all parts are there, the inner one whether the day exists. -/
def resolve? (d : DateParts) (today : Date) : Option (Option Date) := do
  let (day, month, year) ← d.whole?
  let isFuture := today.month < month ∨ today.month = month ∧ today.day < day
  return Date.ofParts? (if d.yearIsGuess ∧ isFuture then year - 1 else year) month day

end DateParts

/-- The content of a column. A number is missing when a negative one was read where only positive
ones are kept. -/
inductive Cell where
  | blank
  | text (t : Text)
  | number (n : Option Int)
  | date (d : DateParts)
  | time (t : Time)
  deriving DecidableEq, Repr

namespace Cell

def dateParts : Cell → DateParts
  | date d => d
  | _ => {}

end Cell

structure Row where
  cells : List Cell
  isDir : Bool := false
  isHidden : Bool := false
  isLink : Bool := false
  deriving DecidableEq, Repr

def maxNameBytes : Nat := 255

def keptText (k : ColumnKind) (t : Text) : Text :=
  if k = .name then Text.takeBytes maxNameBytes t else t

theorem byteCount_keptText_le (t : Text) : Text.byteCount (keptText .name t) ≤ maxNameBytes := by
  simp [keptText, Text.byteCount_takeBytes_le]

def keptNumber? (k : ColumnKind) (positiveOnly : Bool) (n : Int) : Option (Option Int) :=
  if 0 ≤ n then some (some n)
  else if k = .size then (if positiveOnly then some (some 0) else none)
  else some (if positiveOnly then none else some n)

namespace Row

def empty (s : ColumnSet) : Row :=
  { cells := s.columns.map fun _ => .blank }

def text? (r : Row) (i : Nat) : Option Text :=
  match r.cells[i]? with
  | some (.text t) => some t
  | _ => none

def number? (r : Row) (i : Nat) : Option (Option Int) :=
  match r.cells[i]? with
  | some (.number n) => some n
  | _ => none

def date? (r : Row) (i : Nat) : Option (Nat × Nat × Int) :=
  match r.cells[i]? with
  | some (.date d) => d.whole?
  | _ => none

def time? (r : Row) (i : Nat) : Option Time :=
  match r.cells[i]? with
  | some (.time t) => some t
  | _ => none

theorem text?_eq_some_iff {r : Row} {i : Nat} {t : Text} :
    r.text? i = some t ↔ r.cells[i]? = some (.text t) := by
  simp only [text?]
  split <;> simp_all

theorem number?_eq_some_iff {r : Row} {i : Nat} {n : Option Int} :
    r.number? i = some n ↔ r.cells[i]? = some (.number n) := by
  simp only [number?]
  split <;> simp_all

theorem date?_eq_some_iff {r : Row} {i : Nat} {x : Nat × Nat × Int} :
    r.date? i = some x ↔ ∃ d, r.cells[i]? = some (.date d) ∧ d.whole? = some x := by
  simp only [date?]
  split <;> simp_all

theorem time?_eq_some_iff {r : Row} {i : Nat} {t : Time} :
    r.time? i = some t ↔ r.cells[i]? = some (.time t) := by
  simp only [time?]
  split <;> simp_all

def set (r : Row) (i : Nat) (c : Cell) : Row :=
  { r with cells := r.cells.set i c }

end Row

end ListingRules.Listing
