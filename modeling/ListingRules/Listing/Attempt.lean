import ListingRules.Calendar.Month
import ListingRules.Listing.Lines
import ListingRules.Listing.Link
import ListingRules.Listing.Reader
import ListingRules.Listing.Row
import ListingRules.Rule.Typing
import ListingRules.Text.Search

namespace ListingRules.Listing

structure Surroundings where
  columns : ColumnSet
  today : Date
  incomplete : Bool
  lines : NonemptyLines
  deriving DecidableEq, Repr

structure Attempt where
  place : Cursor
  row : Row
  languages : Languages
  deriving DecidableEq, Repr

inductive Outcome where
  | continues (a : Attempt)
  | skipsRest (a : Attempt)
  | fails (languages : Languages)
  | stuck
  deriving DecidableEq, Repr

namespace Attempt

def moveTo (a : Attempt) : Option Cursor → Outcome
  | some c => .continues { a with place := c }
  | none => .fails a.languages

def modify (s : ColumnSet) (f : ColumnKind → Cell → Option Cell) (c : ColumnRef) (a : Attempt) :
    Outcome :=
  match c with
  | .declared i =>
      match s.get? i, a.row.cells[i]? with
      | some column, some cell =>
          match f column.kind cell with
          | some cell => .continues { a with row := a.row.set i cell }
          | none => .fails a.languages
      | _, _ => .stuck
  | _ => .stuck

def setText (s : ColumnSet) (t : Text) : ColumnRef → Attempt → Outcome :=
  modify s fun k _ => some (.text (keptText k t))

def setNumber (s : ColumnSet) (positiveOnly : Bool) (n : Int) : ColumnRef → Attempt → Outcome :=
  modify s fun k _ => (keptNumber? k positiveOnly n).map .number

def setDate (s : ColumnSet) (f : DateParts → DateParts) : ColumnRef → Attempt → Outcome :=
  modify s fun _ cell => some (.date (f cell.dateParts))

def setTime (s : ColumnSet) (t : Time) : ColumnRef → Attempt → Outcome :=
  modify s fun _ _ => some (.time t)

end Attempt

def Outcome.andThen (o : Outcome) (f : Attempt → Outcome) : Outcome :=
  match o with
  | continues a => f a
  | _ => o

def textOf? (a : Attempt) : Operand → Option Text
  | .text t => some t
  | .state .nextChar => some (a.place.ahead.take 1)
  | .state .nextWord => some (a.place.ahead.takeWhile Text.isVisible)
  | .state .restOfLine => some a.place.restOfLine
  | .column (.declared i) => a.row.text? i
  | _ => none

def numberOf? (a : Attempt) : Operand → Option (Option Int)
  | .number n => some (some n)
  | .column (.declared i) => a.row.number? i
  | _ => none

def dateOf? (a : Attempt) : Operand → Option (Nat × Nat × Int)
  | .column (.declared i) => a.row.date? i
  | _ => none

def timeOf? (a : Attempt) : Operand → Option Time
  | .column (.declared i) => a.row.time? i
  | _ => none

def boolOf? (e : Surroundings) (a : Attempt) : Operand → Option Bool
  | .bool b => some b
  | .column .isDir => some a.row.isDir
  | .column .isHidden => some a.row.isHidden
  | .column .isLink => some a.row.isLink
  | .state .firstNonemptyLine => some (e.lines.first.any (·.contains a.place.offset))
  | .state .lastNonemptyLine => some (e.lines.last.any (·.contains a.place.offset))
  | _ => none

def compareTexts (op : Operator) (l r : Text) : Bool :=
  match op with
  | .equal => l == r
  | .notEqual => l != r
  | .sameText => Text.sameLetters l r
  | .notSameText => !Text.sameLetters l r
  | .within => Text.contains l r
  | .notWithin => !Text.contains l r
  | .endWith => Text.endsWith r l
  | .notEndWith => !Text.endsWith r l

def compareValues [DecidableEq α] (op : Operator) (l r : α) : Option Bool :=
  match op with
  | .equal => some (l == r)
  | .notEqual => some (l != r)
  | _ => none

def Param.eval? (e : Surroundings) (a : Attempt) : Param → Option Bool
  | .operand o => boolOf? e a o
  | .comparison l op r =>
      match l.type? e.columns with
      | some .boolean => do compareValues op (← boolOf? e a l) (← boolOf? e a r)
      | some .text => do return compareTexts op (← textOf? a l) (← textOf? a r)
      | some .number => do compareValues op (← numberOf? a l) (← numberOf? a r)
      | some .date => do compareValues op (← dateOf? a l) (← dateOf? a r)
      | some .time => do compareValues op (← timeOf? a l) (← timeOf? a r)
      | none => none

namespace Attempt

def store (s : ColumnSet) (t : Text) (target : Option ColumnRef) (a : Attempt) : Outcome :=
  match target with
  | none => .continues a
  | some c => a.setText s t c

def takeToken (s : ColumnSet) (p : Char → Bool) (target : Option ColumnRef) (a : Attempt) :
    Outcome :=
  match a.place.ahead.takeWhile p with
  | [] => .fails a.languages
  | token => { a with place := a.place.skipWhile p }.store s token target

def takeChars (s : ColumnSet) (n : Int) (target : Option ColumnRef) (a : Attempt) : Outcome :=
  if n < 0 then .fails a.languages
  else
    (a.moveTo (a.place.forward? (! Text.isLineEnd ·) n.toNat)).andThen
      (store s (a.place.ahead.take n.toNat) target)

def takeTo (s : ColumnSet) (inclusive : Bool) (wanted : Text) (target : Option ColumnRef)
    (a : Attempt) : Outcome :=
  match Text.find? wanted a.place.restOfLine with
  | none => .fails a.languages
  | some o =>
      let past := o.before ++ o.found
      { a with place := a.place.advance past.length }.store s
        (if inclusive then past else o.before) target

def takeNumber (s : ColumnSet) (positiveOnly : Bool) (read : Option (Int × Cursor))
    (target : ColumnRef) (a : Attempt) : Outcome :=
  match read with
  | some (n, c) =>
      if c.nextIsAlphabetic then .fails a.languages
      else { a with place := c }.setNumber s positiveOnly n target
  | none => .fails a.languages

/-- A month by its name of three letters. The languages are narrowed even if a letter follows. -/
def takeMonth3 (s : ColumnSet) (names : Option Text) (target : ColumnRef) (a : Attempt) :
    Outcome :=
  let word := a.place.ahead.take 3
  let read := match names with
    | some list => (MonthName.readShortFrom? list word).map (·, a.languages)
    | none => MonthName.readShort? word a.languages
  match if word.length = 3 then read else none with
  | none => .fails a.languages
  | some (month, languages) =>
      let a := { a with place := a.place.advance 3, languages }
      if a.place.nextIsAlphabetic then .fails a.languages
      else a.setDate s (fun d => { d with month := some month }) target

def takeMonthTxt (s : ColumnSet) (names : Option Text) (target : ColumnRef) (a : Attempt) :
    Outcome :=
  let word := a.place.ahead.takeWhile Text.isVisible
  let read := match names with
    | some list => (MonthName.readLongFrom? list word).map fun (m, n) => (m, n, a.languages)
    | none => MonthName.readLong? word a.languages
  match if word.isEmpty then none else read with
  | none => .fails a.languages
  | some (month, length, languages) =>
      let a := { a with place := a.place.advance length, languages }
      if a.place.nextIsAlphabetic then .fails a.languages
      else a.setDate s (fun d => { d with month := some month }) target

/-- A year as listings abbreviate it: two digits turn at 80, and 1601 stands for 1602. -/
def fullYear (n : Nat) : Nat :=
  let year := if n < 80 then n + 2000 else if n < 1000 then n + 1900 else n
  if year = 1601 then 1602 else year

def takeDatePart (s : ColumnSet) (f : Nat → Option (DateParts → DateParts)) (target : ColumnRef)
    (a : Attempt) : Outcome :=
  match a.place.digits? with
  | some (n, c) =>
      match if c.nextIsAlphabetic then none else f n with
      | some change => { a with place := c }.setDate s change target
      | none => .fails a.languages
  | none => .fails a.languages

def takeMonth (s : ColumnSet) : ColumnRef → Attempt → Outcome :=
  takeDatePart s fun n =>
    if 1 ≤ n ∧ n ≤ 12 then some fun d => { d with month := some n } else none

def takeDay (s : ColumnSet) : ColumnRef → Attempt → Outcome :=
  takeDatePart s fun n =>
    if 1 ≤ n ∧ n ≤ 31 then some fun d => { d with day := some n } else none

def takeYear (s : ColumnSet) : ColumnRef → Attempt → Outcome :=
  takeDatePart s fun n =>
    if 1602 ≤ fullYear n ∧ fullYear n ≤ 9999 then
      some fun d => { d with year := some (fullYear n : Int) }
    else none

def takeTime (s : ColumnSet) (target : ColumnRef) (a : Attempt) : Outcome :=
  match a.place.time? with
  | some (t, c) => { a with place := c }.setTime s t target
  | none => .fails a.languages

def takeYearOrTime (e : Surroundings) (date time : ColumnRef) (a : Attempt) : Outcome :=
  match a.place.yearOrTime? with
  | some (.year y, c) =>
      { a with place := c }.setDate e.columns (fun d => { d with year := some (y : Int) }) date
  | some (.time t, c) =>
      ({ a with place := c }.setDate e.columns
        (fun d => { d with year := some e.today.year, yearIsGuess := true }) date).andThen
        (setTime e.columns t time)
  | none => .fails a.languages

def takeLink (s : ColumnSet) (name link : ColumnRef) (a : Attempt) : Outcome :=
  match Link.ofLine? a.place.restOfLine with
  | none => .fails a.languages
  | some l =>
      let a := { a with
        place := a.place.skipWhile (! Text.isLineEnd ·)
        row := { a.row with isDir := l.isDir } }
      (a.setText s l.name name).andThen fun a =>
        match l.target with
        | none => .continues a
        | some t => a.setText s t link

def takeDevice (s : ColumnSet) (target : ColumnRef) (a : Attempt) : Outcome :=
  match a.place.device? with
  | none => .fails a.languages
  | some c =>
      let token := a.place.restOfLine.take (c.behind.length - a.place.behind.length)
      { a with place := c }.setText s token target

def changeText (s : ColumnSet) (f : Text → Option Text) (target : ColumnRef) (a : Attempt) :
    Outcome :=
  match textOf? a (.column target) with
  | none => .stuck
  | some t =>
      match f t with
      | some t => a.setText s t target
      | none => .fails a.languages

def dropEnd? (n : Int) (t : Text) : Option Text :=
  if n < 0 ∨ t.length < n then none else some (t.take (t.length - n.toNat))

def skipSpaces (e : Surroundings) (a : Attempt) : Outcome :=
  let c := a.place.skipWhile Text.isSpace
  if !a.place.ahead.head?.any Text.isSpace then .fails a.languages
  else if c.ahead.isEmpty then
    if e.incomplete then .skipsRest { a with place := c } else .fails a.languages
  else .continues { a with place := c }

def assign (e : Surroundings) (target : ColumnRef) (value : Param) (a : Attempt) : Outcome :=
  let setFlag (f : Bool → Row) : Outcome :=
    match Param.eval? e a value with
    | some b => .continues { a with row := f b }
    | none => .stuck
  match target, value with
  | .isDir, _ => setFlag fun b => { a.row with isDir := b }
  | .isHidden, _ => setFlag fun b => { a.row with isHidden := b }
  | .isLink, _ => setFlag fun b => { a.row with isLink := b }
  | c, .operand o =>
      match e.columns.operandType? c with
      | some .text => (textOf? a o).elim .stuck fun t => a.setText e.columns t c
      | some .number => (numberOf? a o).elim .stuck fun n =>
          a.modify e.columns (fun _ _ => some (.number n)) c
      | some .date => (dateOf? a o).elim .stuck fun (day, month, year) =>
          a.setDate e.columns (fun d => { d with day, month, year }) c
      | some .time => (timeOf? a o).elim .stuck fun t => a.setTime e.columns t c
      | _ => .stuck
  | _, _ => .stuck

def apply (e : Surroundings) (call : Call) (a : Attempt) : Outcome :=
  let s := e.columns
  match call.function, call.params with
  | .skipWhiteSpaces, [] => .continues { a with place := a.place.skipWhile Text.isBlank }
  | .skipToNumber, [] =>
      .continues { a with
        place := a.place.skipWhile fun c => !c.isDigit && !Text.isLineEnd c }
  | .whiteSpaces, [] => a.takeToken s Text.isBlank none
  | .whiteSpaces, [.operand (.number n)] =>
      if n < 0 then .fails a.languages
      else a.moveTo (a.place.forward? Text.isBlank n.toNat)
  | .whiteSpacesAndLineEnds, [] => a.skipSpaces e
  | .restOfLine, [] => a.takeToken s (! Text.isLineEnd ·) none
  | .restOfLine, [.operand (.column c)] => a.takeToken s (! Text.isLineEnd ·) c
  | .word, [] => a.takeToken s Text.isVisible none
  | .word, [.operand (.column c)] => a.takeToken s Text.isVisible c
  | .number, [.operand (.column c)] => a.takeNumber s false a.place.signedDigits? c
  | .positiveNumber, [.operand (.column c)] => a.takeNumber s true a.place.signedDigits? c
  | .numberWithSeparators, [.operand (.column c), .operand o] =>
      match textOf? a o with
      | some separators => a.takeNumber s false (a.place.separatedDigits? separators) c
      | none => .stuck
  | .month3, [.operand (.column c)] => a.takeMonth3 s none c
  | .month3, [.operand (.column c), .operand (.text names)] => a.takeMonth3 s names c
  | .monthTxt, [.operand (.column c)] => a.takeMonthTxt s none c
  | .monthTxt, [.operand (.column c), .operand (.text names)] => a.takeMonthTxt s names c
  | .month, [.operand (.column c)] => a.takeMonth s c
  | .day, [.operand (.column c)] => a.takeDay s c
  | .year, [.operand (.column c)] => a.takeYear s c
  | .time, [.operand (.column c)] => a.takeTime s c
  | .yearOrTime, [.operand (.column date), .operand (.column time)] =>
      a.takeYearOrTime e date time
  | .all, [.operand (.number n)] => a.takeChars s n none
  | .all, [.operand (.column c), .operand (.number n)] => a.takeChars s n c
  | .allTo, [.operand o] => (textOf? a o).elim .stuck fun t => a.takeTo s true t none
  | .allTo, [.operand (.column c), .operand o] =>
      (textOf? a o).elim .stuck fun t => a.takeTo s true t c
  | .allUpTo, [.operand (.column c), .operand o] =>
      (textOf? a o).elim .stuck fun t => a.takeTo s false t c
  | .unixLink, [_, .operand (.column name), .operand (.column link)] => a.takeLink s name link
  | .unixDevice, [.operand (.column c)] => a.takeDevice s c
  | .require, [p] =>
      match Param.eval? e a p with
      | some true => .continues a
      | some false => .fails a.languages
      | none => .stuck
  | .assign, [.operand (.column c), value] => a.assign e c value
  | .cutWhiteSpacesEnd, [.operand (.column c)] => a.changeText s (some ∘ Text.trimEnd) c
  | .cutWhiteSpacesStart, [.operand (.column c)] => a.changeText s (some ∘ Text.trimStart) c
  | .cutWhiteSpaces, [.operand (.column c)] =>
      a.changeText s (some ∘ Text.trimEnd ∘ Text.trimStart) c
  | .back, [.operand (.number n)] =>
      if n < 0 then .fails a.languages else a.moveTo (a.place.backward? n.toNat)
  | .addStringToColumn, [.operand (.column c), .operand o] =>
      (textOf? a o).elim .stuck fun more => a.changeText s (fun t => some (t ++ more)) c
  | .cutEndOfString, [.operand (.column c), .operand (.number n)] =>
      a.changeText s (dropEnd? n) c
  | _, _ => .stuck

end Attempt

end ListingRules.Listing
