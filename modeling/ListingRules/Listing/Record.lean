import ListingRules.Listing.Row

namespace ListingRules.Listing

structure FileRecord where
  name : Text
  isDir : Bool
  isHidden : Bool
  isLink : Bool
  size : Nat
  modified : Option Moment
  extension : Option Text
  values : List Value
  deriving DecidableEq, Repr

def FileRecord.isDotEntry (r : FileRecord) : Bool :=
  r.isDir && (r.name == ['.'] || r.name == ['.', '.'])

def extensionOf? (name : Text) : Option Text :=
  if name.contains '.' then some (name.reverse.takeWhile (· != '.')).reverse else none

/-- The value that a column shows for what a rule has left in its cell. A date that does not exist
is shown as the earliest one. -/
def shownValue (today : Date) (name : Text) (extension : Option Text) (c : Column) (cell : Cell) :
    Value :=
  let dateOr (unread : Value) : Value :=
    match cell.dateParts.resolve? today with
    | some d => .date (d.getD Date.earliest)
    | none => unread
  match c.kind, cell with
  | .name, _ => .text name
  | .extension, _ => extension.elim .empty .text
  | .size, .number n => .number (n.getD 0)
  | .number, .number n => n.elim .empty .number
  | .text, .text t => .text t
  | .time, .time t | .generalTime, .time t => .time t
  | .date, _ | .generalDate, _ => dateOr c.empty
  | _, _ => c.empty

def valueOfKind? (s : ColumnSet) (k : ColumnKind) (values : List Value) : Option Value :=
  ((s.columns.zip values).find? (·.1.kind == k)).map (·.2)

def FileRecord.ofValues (s : ColumnSet) (isDir isHidden isLink : Bool) (name : Text)
    (extension : Option Text) (values : List Value) : FileRecord :=
  let date := valueOfKind? s .date values
  let time := valueOfKind? s .time values
  { name, isDir, isHidden, isLink
    size := match valueOfKind? s .size values with
      | some (.number n) => n.toNat
      | _ => 0
    modified :=
      if date.isNone && time.isNone then none
      else some
        { date := match date with
            | some (.date d) => d
            | _ => Date.earliest
          time := match time with
            | some (.time t) => t
            | _ => Time.midnight }
    extension
    values }

def Row.toRecord (s : ColumnSet) (today : Date) (r : Row) : FileRecord :=
  let name := (r.text? s.nameIndex).getD []
  let extension := if r.isDir then none else extensionOf? name
  .ofValues s r.isDir r.isHidden r.isLink name extension
    ((s.columns.zip r.cells).map fun (c, cell) => shownValue today name extension c cell)

theorem length_values_toRecord {s : ColumnSet} {today : Date} {r : Row}
    (h : r.cells.length = s.columns.length) :
    (r.toRecord s today).values.length = s.columns.length := by
  simp [Row.toRecord, FileRecord.ofValues, h]

end ListingRules.Listing
