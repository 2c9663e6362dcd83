import Mathlib.Data.List.Forall2
import ListingRules.Pattern.Engine
import ListingRules.Proofs.LongFormat.Entry
import ListingRules.Proofs.LongFormat.Rules
import ListingRules.Proofs.Passes

namespace ListingRules.LongFormat

open Listing
open Text (blanks isBlank isVisible)

section Line

variable {e : Surroundings} {f g h : Found} {t rest : Text} {function : RuleFunction}
  {places : List Nat}

theorem takes_field {n : Nat} {word u : Text} {more : List Call}
    (ht : Takes e [callOn function places] t (blanks n ++ ((word ++ u) ++ rest)) f g)
    (hword : Text.IsWord word) (hu : Takes e more (word ++ u) rest g h) :
    Takes e (field function places ++ more) (t ++ (blanks n ++ (word ++ u))) rest f h := by
  have hgap : Takes e [callOn .whiteSpaces []] (blanks n) ((word ++ u) ++ rest) g g :=
    takes_whiteSpaces n (by simpa using hword.stops_isBlank (u ++ rest))
  have hfirst : Takes e [callOn function places] t ((blanks n ++ (word ++ u)) ++ rest) f g := by
    rwa [List.append_assoc]
  exact hfirst.append (hgap.append hu)

end Line

namespace Entry

def row (x : Entry) (name date time : Cell) (isHidden : Bool) : Row where
  cells := [name, .blank, .number (some (x.size : Int)), .blank, date, time, .text x.rights, .blank,
    .text x.user.1, .text x.group.1, .blank]
  isDir := x.isDir
  isHidden := isHidden

def dateParts (x : Entry) : DateParts :=
  { day := some x.modified.date.day, month := some x.modified.date.month }

end Entry

structure CellsTell (today : Date) (m : Moment) (date : DateParts) (time : Cell) : Prop where
  date : date.resolve? today = some (some m.date)
  time : time = .time m.time ∨ time = .blank ∧ m.time = Time.midnight

variable {e : Surroundings} {rest : Text} {languages : Languages}

theorem holds {row : Row} {i : Nat} {k : ColumnKind} {cell : Cell} (he : e.columns = columns)
    (hkind : (columns.get? i).map (·.kind) = some k) (hcell : row.cells[i]? = some cell) :
    row.Holds e.columns i k cell :=
  ⟨he ▸ hkind, hcell⟩

theorem stops_blanks (n : Nat) (rest : Text) : Stops isVisible (blanks n ++ rest) :=
  stops_cons (by decide)

theorem takes_head (he : e.columns = columns) (x : Entry) (hrest : Stops isBlank rest)
    (hl : Language.english ∈ languages) :
    ∃ left, Language.english ∈ left ∧
      Takes e headCalls x.head rest ⟨Row.empty columns, languages⟩
        ⟨x.row .blank (.date x.dateParts) .blank false, left⟩ := by
  obtain ⟨-, -, hfirst, hlast, hday, -⟩ := x.modified.date.isDay
  obtain ⟨m, hm, hmonth, henglish⟩ := shortAt?_monthText hfirst hlast
  have hused : m.isUsedIn languages = true :=
    List.any_eq_true.2 ⟨_, hl, List.contains_iff_mem.2 henglish⟩
  have hmonthWord := isWord_monthText hfirst hlast
  have hsize : Decimal.read? (Decimal.digits x.size) = some x.size :=
    Decimal.read?_digits x.size_le
  have hdayRead : Decimal.read? (Decimal.digits x.modified.date.day) = some x.modified.date.day :=
    Decimal.read?_digits (Nat.le_trans x.modified.date.day_le (by decide))
  have hlink : (x.head ++ rest).head? ≠ some 'l' := by
    rw [x.head?_head]
    cases x.isDir <;> decide
  have hdir : ((x.head ++ rest).head? == some 'd') = x.isDir := by
    rw [x.head?_head]
    cases x.isDir <;> decide
  have hflag : Takes e [⟨.assign, [.operand (.column .isDir), nextChar .equal 'd']⟩] []
      (x.head ++ rest) ⟨Row.empty columns, languages⟩
      ⟨{ Row.empty columns with isDir := x.isDir }, languages⟩ := by
    rw [← hdir]
    exact takes_assign_isDir 'd'
  refine ⟨m.narrow languages, List.mem_filter.2 ⟨hl, List.contains_iff_mem.2 henglish⟩, ?_⟩
  have hparts : x.dateParts = { x.dateParts with month := some m.month } := by
    rw [hmonth]
    rfl
  rw [hparts]
  refine (takes_require hlink).append (u := x.head) ?_
  refine hflag.append (u := x.head) ?_
  refine takes_field (takes_word_column (holds he rfl rfl) x.isWord_rights (stops_blanks _ _))
    x.links.2 ?_
  refine takes_field (takes_word x.links.2 (stops_blanks _ _)) x.user.2 ?_
  refine takes_field (takes_word_column (holds he rfl rfl) x.user.2 (stops_blanks _ _)) x.group.2 ?_
  refine takes_field (takes_word_column (holds he rfl rfl) x.group.2 (stops_blanks _ _))
    (Text.isWord_of_read? hsize) ?_
  refine takes_field (takes_positiveNumber (holds he rfl rfl) hsize (stops_blanks _ _))
    hmonthWord ?_
  refine takes_field (takes_month3 (holds he rfl rfl) hm hused (stops_blanks _ _))
    (Text.isWord_of_read? hdayRead) ?_
  exact (takes_day (holds he rfl rfl) hdayRead ⟨hday, x.modified.date.day_le⟩
    (stops_blanks _ _)).append (takes_whiteSpaces _ hrest)

theorem takes_stamp (he : e.columns = columns) (languages : Languages) {x : Entry}
    (hx : x.stamp.Tells e.today x.modified) (hrest : Stops isVisible rest) :
    ∃ date time, Takes e [callOn .yearOrTime [4, 5]] (x.stamp.text x.modified) rest
        ⟨x.row .blank (.date x.dateParts) .blank false, languages⟩
        ⟨x.row .blank (.date date) time false, languages⟩ ∧
      CellsTell e.today x.modified date time := by
  cases hs : x.stamp with
  | time =>
      rw [hs] at hx
      obtain ⟨hsecond, hmilli, hrecent⟩ := hx
      exact ⟨_, _, takes_yearOrTime_time ⟨hsecond, hmilli⟩ (holds he rfl rfl) (holds he rfl rfl)
        hrest, ⟨resolve?_guess hrecent, .inl rfl⟩⟩
  | year =>
      rw [hs] at hx
      obtain ⟨hmidnight, hfirst, hlast⟩ := hx
      have hread := read?_yearText (Int.le_trans (by decide) hfirst) hlast
      have hyear : (x.modified.date.year.toNat : Int) = x.modified.date.year :=
        Int.toNat_of_nonneg (Int.le_trans (by decide) hfirst)
      refine ⟨_, _, takes_yearOrTime_year (holds he rfl rfl) hread (by omega) (by omega) hrest,
        ⟨?_, .inr ⟨rfl, hmidnight⟩⟩⟩
      rw [hyear]
      exact resolve?_year _ _

theorem exists_stampDigits (x : Entry) {today : Date} (hx : x.stamp.Tells today x.modified)
    (tail : Text) : ∃ digits rest n,
      x.stamp.text x.modified ++ (' ' :: (x.name.text ++ tail)) = digits ++ rest ∧
      Decimal.read? digits = some n ∧ Stops Char.isDigit rest ∧
      (rest.takeWhile isBlank).length < 2 := by
  have hname : (' ' :: (x.name.text ++ tail)).takeWhile isBlank = [' '] := by
    have hspace : isBlank ' ' = true := by decide
    simp [hspace, takeWhile_of_stops (x.name.stops_isBlank tail)]
  cases hs : x.stamp with
  | time =>
      obtain ⟨hhour, -, -, -⟩ := x.modified.time.isTimeOfDay
      refine ⟨Decimal.padded 2 x.modified.time.hour,
        ':' :: (Decimal.padded 2 x.modified.time.minute ++ ' ' :: (x.name.text ++ tail)),
        x.modified.time.hour, by simp [Stamp.text],
        Decimal.read?_padded 2 (Nat.le_trans (Nat.le_of_lt hhour) (by decide)),
        stops_cons (by decide), ?_⟩
      have hcolon : isBlank ':' = false := by decide
      simp [hcolon]
  | year =>
      rw [hs] at hx
      obtain ⟨-, hfirst, hlast⟩ := hx
      refine ⟨Date.yearText x.modified.date.year, ' ' :: (x.name.text ++ tail), _, rfl,
        read?_yearText (Int.le_trans (by decide) hfirst) hlast, stops_cons (by decide), ?_⟩
      rw [hname]
      decide

theorem takes_name (he : e.columns = columns) (languages : Languages) (x : Entry)
    (date time : Cell) (tail : Text) :
    Takes e (nameCalls 1) (' ' :: x.name.text) ('\n' :: tail)
      ⟨x.row .blank date time false, languages⟩
      ⟨x.row (.text x.name.text) date time
        ((x.name.text ++ '\n' :: tail).head? == some '.'), languages⟩ := by
  have hkept : keptText .name x.name.text = x.name.text := by
    simp [keptText, Text.takeBytes_eq_self x.name.fits]
  have hname (isHidden : Bool) : Takes e [callOn .restOfLine [0]] x.name.text ('\n' :: tail)
      ⟨x.row .blank date time isHidden, languages⟩
      ⟨x.row (.text (keptText .name x.name.text)) date time isHidden, languages⟩ :=
    takes_restOfLine_column (holds he rfl rfl) x.name.ne_nil (by simpa using x.name.isOneLine)
      (stops_cons (by decide))
  rw [hkept] at hname
  refine (takes_whiteSpaces_count 1).append ?_
  exact (takes_assign_isHidden '.').append (u := x.name.text) (hname _)

theorem applyRule_yearRule (he : e.columns = columns) {x : Entry}
    (hx : x.stamp.Tells e.today x.modified) (hl : Language.english ∈ languages)
    (behind tail : Text) :
    ∃ left, Language.english ∈ left ∧
      applyRule e ⟨behind, x.line ++ tail⟩ languages yearRule = .fails left := by
  obtain ⟨digits, rest, n, htext, hread, hdigits, hblanks⟩ :=
    exists_stampDigits x hx ('\n' :: tail)
  have hline : x.line ++ tail = x.head ++ (digits ++ rest) := by
    rw [← htext]
    simp [Entry.line]
  obtain ⟨left, henglish, hhead⟩ := takes_head he x
    ((Text.isWord_of_read? hread).stops_isBlank rest) hl
  have hcalls := (hhead.applyAll_append (callOn .year [4] :: nameCalls 2) behind).trans
    (fails_year_whiteSpaces (holds he rfl rfl) hread hdigits hblanks _ _)
  refine ⟨left, henglish, ?_⟩
  simp only [Found.at] at hcalls
  simp only [applyRule, yearRule, he, hline, hcalls]

theorem takes_timeRule (he : e.columns = columns) {x : Entry}
    (hx : x.stamp.Tells e.today x.modified) (hl : Language.english ∈ languages) (tail : Text) :
    ∃ left date time isHidden, Language.english ∈ left ∧
      Takes e timeRule.calls (x.head ++ (x.stamp.text x.modified ++ ' ' :: x.name.text))
        ('\n' :: tail) ⟨Row.empty columns, languages⟩
        ⟨x.row (.text x.name.text) (.date date) time isHidden, left⟩ ∧
      CellsTell e.today x.modified date time := by
  obtain ⟨digits, rest, n, htext, hread, -, -⟩ := exists_stampDigits x hx ('\n' :: tail)
  have hstops :
      Stops isBlank ((x.stamp.text x.modified ++ ' ' :: x.name.text) ++ '\n' :: tail) := by
    rw [List.append_assoc, List.cons_append, htext]
    exact (Text.isWord_of_read? hread).stops_isBlank rest
  obtain ⟨left, henglish, hhead⟩ := takes_head he x hstops hl
  have hspace : Stops isVisible ((' ' :: x.name.text) ++ '\n' :: tail) := stops_cons (by decide)
  obtain ⟨date, time, hstamp, htell⟩ := takes_stamp he left hx hspace
  have hcalls := hhead.append (hstamp.append (takes_name he left x (.date date) time tail))
  exact ⟨left, date, time, _, henglish, hcalls, htell⟩

theorem applyRule_timeRule (he : e.columns = columns) {x : Entry}
    (hx : x.stamp.Tells e.today x.modified) (hl : Language.english ∈ languages)
    (behind tail : Text) :
    ∃ left date time isHidden, Language.english ∈ left ∧
      applyRule e ⟨behind, x.line ++ tail⟩ languages timeRule =
        .matched ⟨x.line.reverse ++ behind, tail⟩
          (x.row (.text x.name.text) (.date date) time isHidden) left ∧
      CellsTell e.today x.modified date time := by
  obtain ⟨left, date, time, isHidden, henglish, hcalls, htell⟩ := takes_timeRule he hx hl tail
  rw [← he] at hcalls
  have hname : (x.row (.text x.name.text) (.date date) time isHidden).hasEmptyName e.columns =
      false := by
    simpa [Row.hasEmptyName, Row.text?, Entry.row, he, columns] using x.name.ne_nil
  refine ⟨left, date, time, isHidden, henglish, ?_, htell⟩
  have hmatch := hcalls.applyRule hname behind
  simpa [Entry.line] using hmatch

structure Entry.IsShownBy (x : Entry) (f : FileRecord) : Prop where
  name : f.name = x.name.text
  isDir : f.isDir = x.isDir
  size : f.size = x.size
  modified : f.modified = some x.modified

theorem isShownBy_toRecord {x : Entry} {date : DateParts} {time : Cell} {today : Date}
    (isHidden : Bool) (h : CellsTell today x.modified date time) :
    x.IsShownBy
      ((x.row (.text x.name.text) (.date date) time isHidden).toRecord columns today) := by
  constructor
  · rfl
  · rfl
  · rfl
  · obtain ⟨hdate, rfl | ⟨rfl, hmidnight⟩⟩ := h
    · simp [Row.toRecord, FileRecord.ofValues, Entry.row, columns, valueOfKind?, shownValue,
        Cell.dateParts, hdate]
    · simp [Row.toRecord, FileRecord.ofValues, Entry.row, columns, valueOfKind?, shownValue,
        Cell.dateParts, hdate, ← hmidnight]

variable (more : List Rule)

theorem applyRules_line (he : e.columns = columns) {x : Entry}
    (hx : x.stamp.Tells e.today x.modified) (hl : Language.english ∈ languages)
    (behind tail : Text) :
    ∃ row left, applyRules e ⟨behind, x.line ++ tail⟩ languages (yearRule :: timeRule :: more) =
        .matched ⟨x.line.reverse ++ behind, tail⟩ row left ∧
      Language.english ∈ left ∧ ∃ f, recordOf? e row = some f ∧ x.IsShownBy f := by
  obtain ⟨narrowed, hnarrowed, hyear⟩ := applyRule_yearRule he hx hl behind tail
  obtain ⟨left, date, time, isHidden, henglish, htime, htell⟩ :=
    applyRule_timeRule he hx hnarrowed behind tail
  have hrules : applyRules e ⟨behind, x.line ++ tail⟩ languages (yearRule :: timeRule :: more) =
      .matched ⟨x.line.reverse ++ behind, tail⟩
        (x.row (.text x.name.text) (.date date) time isHidden) left := by
    simp only [applyRules, hyear, htime]
  have hrecord : recordOf? e (x.row (.text x.name.text) (.date date) time isHidden) =
      some ((x.row (.text x.name.text) (.date date) time isHidden).toRecord columns e.today) := by
    rw [recordOf?, he]
    rfl
  exact ⟨_, left, hrules, henglish, _, hrecord, isShownBy_toRecord isHidden htell⟩

theorem step_line (he : e.columns = columns) {x : Entry}
    (hx : x.stamp.Tells e.today x.modified) {r : Reading} (hfinished : r.finished = false)
    (hl : Language.english ∈ r.languages) {tail : Text} (hahead : r.place.ahead = x.line ++ tail) :
    ∃ f r', Reading.step e (yearRule :: timeRule :: more) r = (some (.record f), r') ∧
      x.IsShownBy f ∧ r'.finished = false ∧ Language.english ∈ r'.languages ∧
      r'.place.ahead = tail := by
  obtain ⟨⟨behind, ahead⟩, line, languages, finished⟩ := r
  simp only at hl hahead
  subst hahead
  obtain ⟨row, left, hmatch, hleft, f, hrecord, hshown⟩ :=
    applyRules_line more he hx hl behind tail
  have hne : x.line ++ tail ≠ [] := by simp [Entry.line]
  obtain ⟨line', hstep⟩ := Reading.step_of_matched hfinished hne hmatch
  rw [hrecord] at hstep
  exact ⟨f, _, hstep, hshown, rfl, hleft, rfl⟩

theorem recordsFrom_lines (he : e.columns = columns) {entries : List Entry}
    (hentries : ∀ x ∈ entries, x.stamp.Tells e.today x.modified) {r : Reading}
    (hfinished : r.finished = false) (hl : Language.english ∈ r.languages)
    (hahead : r.place.ahead = entries.flatMap Entry.line) {n : Nat} (hn : entries.length < n) :
    ∃ records, Reading.recordsFrom e (yearRule :: timeRule :: more) n r = .ok records ∧
      List.Forall₂ Entry.IsShownBy entries records := by
  induction entries generalizing r n with
  | nil =>
      obtain _ | n := n
      · simp at hn
      · have hdone : Reading.step e (yearRule :: timeRule :: more) r = (some .done, r.finish) := by
          simp [Reading.step, hahead]
        have hnext := Reading.next_of_step_some hdone
        exact ⟨[], by simp only [Reading.recordsFrom, hnext], .nil⟩
  | cons x entries ih =>
      obtain _ | n := n
      · simp at hn
      · obtain ⟨f, r', hstep, hshown, hfinished', hl', hahead'⟩ :=
          step_line more he (hentries x List.mem_cons_self) hfinished hl hahead
        have hnext := Reading.next_of_step_some hstep
        obtain ⟨records, hrecords, hall⟩ := ih (fun y hy => hentries y (List.mem_cons_of_mem x hy))
          hfinished' hl' hahead' (Nat.lt_of_succ_lt_succ hn)
        refine ⟨f :: records, ?_, .cons hshown hall⟩
        simp only [Reading.recordsFrom, hnext, hrecords]
        rfl

theorem isDotEntry_of_isShownBy {x : Entry} {f : FileRecord} (h : x.IsShownBy f) :
    f.isDotEntry = false := by
  simp [FileRecord.isDotEntry, h.name, x.name.isNotDots]

theorem filter_isDotEntry {entries : List Entry} {records : List FileRecord}
    (h : List.Forall₂ Entry.IsShownBy entries records) :
    records.filter (!·.isDotEntry) = records := by
  induction h with
  | nil => rfl
  | cons hx _ ih => rw [List.filter_cons_of_pos (by simp [isDotEntry_of_isShownBy hx]), ih]

theorem length_le_flatMap_line (entries : List Entry) :
    entries.length ≤ (entries.flatMap Entry.line).length := by
  induction entries with
  | nil => exact Nat.le_refl 0
  | cons x entries ih =>
      have hline : 0 < x.line.length := List.length_pos_of_ne_nil (by simp [Entry.line])
      simp only [List.flatMap_cons, List.length_append, List.length_cons]
      omega

/-- Files and directories that are written as a long listing are read back by the rules of the first
UNIX server type. -/
theorem parse_lines [PatternEngine] (today : Date) (incomplete : Bool) (entries : List Entry)
    (hentries : ∀ x ∈ entries, x.stamp.Tells today x.modified) :
    ∃ t records, Stock.unix1.compile = .ok t ∧
      parse t.rules (entries.flatMap Entry.line) { today, incomplete } = .ok records ∧
      List.Forall₂ Entry.IsShownBy entries records := by
  obtain ⟨t, more, hcompile, hrules⟩ := exists_compile_unix1
  have henglish : Language.english ∈ Languages.all := by decide
  obtain ⟨records, hrecords, hall⟩ := recordsFrom_lines more
    (e := Reading.surroundings columns { today, incomplete } (entries.flatMap Entry.line))
    (r := Reading.start (entries.flatMap Entry.line) { today, incomplete })
    rfl hentries rfl henglish rfl (Nat.lt_succ_of_le (length_le_flatMap_line entries))
  refine ⟨t, records, hcompile, ?_, hall⟩
  simp only [parse, hrules]
  rw [hrecords]
  exact congrArg Except.ok (filter_isDotEntry hall)

namespace Sample

def today : Date :=
  ⟨2024, 2, 28, by decide⟩

def directory : Entry where
  isDir := true
  links := ⟨['2'], by decide⟩
  user := ⟨['m', 'a', 'x'], by decide⟩
  group := ⟨['f', 't', 'p'], by decide⟩
  size := 4096
  size_le := by decide
  modified := ⟨⟨2023, 12, 31, by decide⟩, ⟨23, 59, 0, 0, by decide⟩⟩
  stamp := .time
  name := ⟨"old mail".toList, by decide, by decide, by decide, by decide⟩
  gap := fun _ => 0

def file : Entry where
  isDir := false
  links := ⟨['1'], by decide⟩
  user := ⟨['m', 'a', 'x'], by decide⟩
  group := ⟨['f', 't', 'p'], by decide⟩
  size := 7
  size_le := by decide
  modified := ⟨⟨2020, 2, 29, by decide⟩, Time.midnight⟩
  stamp := .year
  name := ⟨".plan".toList, by decide, by decide, by decide, by decide⟩
  gap := fun _ => 1

theorem parse_directory_file :
    (∀ x ∈ [directory, file], x.stamp.Tells today x.modified) ∧
    ∃ t records, Stock.unix1.compile = .ok t ∧
      parse t.rules ("drwxr-xr-x 2 max ftp 4096 Dec 31 23:59 old mail\n".toList ++
        "-rwxr-xr-x  1  max  ftp  7  Feb  29   2020 .plan\n".toList) { today } = .ok records ∧
      List.Forall₂ Entry.IsShownBy [directory, file] records := by
  have htells : ∀ x ∈ [directory, file], x.stamp.Tells today x.modified := by decide
  have hlines : "drwxr-xr-x 2 max ftp 4096 Dec 31 23:59 old mail\n".toList ++
      "-rwxr-xr-x  1  max  ftp  7  Feb  29   2020 .plan\n".toList =
        [directory, file].flatMap Entry.line := by decide +kernel
  refine ⟨htells, ?_⟩
  rw [hlines]
  exact parse_lines today false [directory, file] htells

end Sample

end ListingRules.LongFormat
