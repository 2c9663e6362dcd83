import ListingRules.Proofs.DateWrites
import ListingRules.Proofs.RecordValues

namespace ListingRules

namespace Date

def IsBefore (d : Date) (year : Int) (month day : Nat) : Prop :=
  d.year < year ∨ d.year = year ∧ (d.month < month ∨ d.month = month ∧ d.day < day)

instance (d : Date) (year : Int) (month day : Nat) : Decidable (d.IsBefore year month day) := by
  unfold IsBefore
  infer_instance

theorem isBefore_own_year {d : Date} {month day : Nat} :
    d.IsBefore d.year month day ↔ d.month < month ∨ d.month = month ∧ d.day < day := by
  simp [IsBefore]

def orEarliest (year : Int) (month day : Nat) : Date :=
  (ofParts? year month day).getD earliest

theorem orEarliest_of_isDay {year : Int} {month day : Nat} (h : IsDay year month day) :
    orEarliest year month day = ⟨year, month, day, h⟩ := by
  simp [orEarliest, ofParts?, h]

theorem orEarliest_of_not_isDay {year : Int} {month day : Nat} (h : ¬ IsDay year month day) :
    orEarliest year month day = earliest := by
  simp [orEarliest, ofParts?, h]

theorem orEarliest_pred_eq_iff (year : Int) (month day : Nat) :
    orEarliest (year - 1) month day = orEarliest year month day ↔
      ¬ IsDay year month day ∧ ¬ IsDay (year - 1) month day := by
  by_cases hyear : IsDay year month day <;> by_cases hpred : IsDay (year - 1) month day
  · rw [orEarliest_of_isDay hyear, orEarliest_of_isDay hpred]
    simp only [mk.injEq, and_true, hyear, not_true_eq_false, false_and, iff_false]
    omega
  -- the earliest date is the first of January, which the years before and behind it have too
  · rw [orEarliest_of_isDay hyear, orEarliest_of_not_isDay hpred]
    simp only [hyear, not_true_eq_false, false_and, iff_false]
    intro h
    injection h with hy hm hd
    subst hy hm hd
    exact hpred (by decide)
  · rw [orEarliest_of_not_isDay hyear, orEarliest_of_isDay hpred]
    simp only [hpred, not_true_eq_false, and_false, iff_false]
    intro h
    injection h with hy hm hd
    obtain rfl : year = 1603 := by omega
    subst hm hd
    exact hyear (by decide)
  · simp [orEarliest_of_not_isDay hyear, orEarliest_of_not_isDay hpred, hyear, hpred]

end Date

namespace Listing

def shownDate (today : Date) (guessed : Bool) (year : Int) (month day : Nat) : Date :=
  Date.orEarliest
    (if guessed ∧ today.IsBefore today.year month day then year - 1 else year) month day

def ShowsGuess (today : Date) (year : Int) (month day : Nat) : Prop :=
  today.IsBefore today.year month day ∧ (IsDay year month day ∨ IsDay (year - 1) month day)

instance (today : Date) (year : Int) (month day : Nat) :
    Decidable (ShowsGuess today year month day) := by
  unfold ShowsGuess
  infer_instance

theorem shownDate_eq_iff {today : Date} {year : Int} {month day : Nat} {a b : Bool} :
    shownDate today a year month day = shownDate today b year month day ↔
      a = b ∨ ¬ ShowsGuess today year month day := by
  have hpred := Date.orEarliest_pred_eq_iff year month day
  by_cases hbefore : today.IsBefore today.year month day
  · have hshows : ¬ ShowsGuess today year month day ↔
        Date.orEarliest (year - 1) month day = Date.orEarliest year month day := by
      rw [hpred]
      simp [ShowsGuess, hbefore]
    cases a <;> cases b <;> simp [shownDate, hbefore, hshows, eq_comm]
  · simp [shownDate, ShowsGuess, hbefore]

theorem resolve?_eq {d : DateParts} {day month : Nat} {year : Int}
    (h : d.whole? = some (day, month, year)) (today : Date) :
    (d.resolve? today).map (·.getD Date.earliest) =
      some (shownDate today d.yearIsGuess year month day) := by
  simp [DateParts.resolve?, h, shownDate, Date.orEarliest, Date.isBefore_own_year]

theorem shownValue_of_date {column : Column} (htype : column.kind.operandType? = some .date)
    {cell : Cell} {day month : Nat} {year : Int}
    (hparts : cell.dateParts.whole? = some (day, month, year)) (today : Date) (name : Text)
    (extension : Option Text) :
    shownValue today name extension column cell =
      .date (shownDate today cell.dateParts.yearIsGuess year month day) := by
  obtain ⟨d, hd, hshown⟩ := Option.map_eq_some_iff.1 (resolve?_eq hparts today)
  have hkind : column.kind = .date ∨ column.kind = .generalDate := by
    cases hk : column.kind <;> simp [hk, ColumnKind.operandType?] at htype ⊢
  rcases hkind with hkind | hkind <;> simp [shownValue, hkind, hd, hshown]

def Receives (writes : List Write) (day month : Nat) (year : Int) : Prop :=
  lastOf Write.day? writes = some day ∧ lastOf Write.month? writes = some month ∧
    lastOf Write.year? writes = some year

theorem receives_iff {writes : List Write} {day month : Nat} {year : Int} :
    Receives writes day month year ↔ (partsOf writes).whole? = some (day, month, year) := by
  rw [Receives, ← day_partsOf, ← month_partsOf, ← year_partsOf, DateParts.whole?_eq_some_iff]

section Rules

variable {e : Surroundings} {calls : List Call} {a b : Attempt} {rule : Rule}
  {place stop : Cursor} {row : Row} {before after : Languages} {i j : Nat}

theorem value_of_applyRule (hrule : Rule.IsChecked e.columns rule)
    (hi : e.columns.operandType? (.declared i) = some .date)
    (hmatch : applyRule e place before rule = .matched stop row after) {day month : Nat}
    {year : Int}
    (hreceives : Receives (dateWrites e i (madeByRule e place before rule)) day month year) :
    (row.toRecord e.columns e.today).values[i]? =
      some (.date (shownDate e.today
        ((dateWrites e i (madeByRule e place before rule)).any Write.guesses) year month day)) := by
  obtain ⟨column, hcolumn, htype⟩ := Row.exists_column hi
  have hparts := dateParts_of_applyRule hrule hi hmatch
  obtain ⟨v, hchecked⟩ := hrule
  obtain ⟨c, ho⟩ := applyAll_of_applyRule hmatch
  have hkeeps := keeps_of_succeeds (succeeds_of_applyAll ho) hchecked Row.keeps_empty
  obtain ⟨cell, hcell, -⟩ := hkeeps.typed.exists_cell hcolumn
  rw [Row.dateParts_eq hcell] at hparts
  rw [Row.value_toRecord hcolumn hcell,
    shownValue_of_date htype (hparts ▸ receives_iff.1 hreceives), hparts, yearIsGuess_partsOf]

theorem dateParts_of_untouched (h : applyAll e calls a = .continues b)
    (hi : ∀ call ∈ calls, .declared i ∉ call.targets) :
    b.row.dateParts i = a.row.dateParts i := by
  simp only [Row.dateParts, cell_of_applyAll h hi]

theorem whole?_of_dateOf? {date : Nat × Nat × Int}
    (h : dateOf? a (.column (.declared i)) = some date) :
    (a.row.dateParts i).whole? = some date := by
  obtain ⟨d, hcell, hwhole⟩ := Row.date?_eq_some_iff.1 h
  rwa [Row.dateParts_eq hcell]

theorem receives_of_assign (hrule : Rule.IsChecked e.columns rule)
    (hi : e.columns.operandType? (.declared i) = some .date)
    (hj : e.columns.operandType? (.declared j) = some .date) {done more : List Call}
    (hcalls : rule.calls = done ++
      ⟨.assign, [.operand (.column (.declared j)), .operand (.column (.declared i))]⟩ :: more)
    (hmore : ∀ call ∈ more, .declared i ∉ call.targets ∧ .declared j ∉ call.targets)
    (hmatch : applyRule e place before rule = .matched stop row after) :
    ∃ day month year,
      Receives (dateWrites e i (madeByRule e place before rule)) day month year ∧
        Receives (dateWrites e j (madeByRule e place before rule)) day month year := by
  obtain ⟨c, ho⟩ := applyAll_of_applyRule hmatch
  rw [hcalls] at ho
  obtain ⟨a, -, ho⟩ := exists_of_applyAll_append ho
  rw [← List.singleton_append] at ho
  obtain ⟨b, hassign, hrest⟩ := exists_of_applyAll_append ho
  have hcall := (applyAll_singleton e _ a).symm.trans hassign
  obtain ⟨day, month, year, hdate, hset⟩ := Attempt.exists_of_assignDate hj hcall
  have hassigned : (b.row.dateParts j).whole? = some (day, month, year) := by
    rw [Attempt.dateParts_of_setDate hset rfl]
    rfl
  have hother : (b.row.dateParts i).whole? = some (day, month, year) := by
    by_cases hij : i = j
    -- a column may be assigned to itself
    · rw [hij, hassigned]
    · rw [dateParts_of_untouched hassign (by simpa [Call.targets] using hij),
        whole?_of_dateOf? hdate]
  refine ⟨day, month, year, receives_iff.2 ?_, receives_iff.2 ?_⟩
  · rw [← dateParts_of_applyRule hrule hi hmatch,
      dateParts_of_untouched (i := i) hrest fun call hc => (hmore call hc).1, hother]
  · rw [← dateParts_of_applyRule hrule hj hmatch,
      dateParts_of_untouched (i := j) hrest fun call hc => (hmore call hc).2, hassigned]

/-- A date column shows the day, month and year that it has received last, save that one year is
taken off when any year written to the column was a guess; and that shows when the day is still to
come. So two columns of which one was assigned to the other need not show the same date. -/
theorem date_of_applyRule {source : Text} {columns : ColumnSet} {rules : RuleSet}
    (h : RuleSet.compile source columns = .ok rules) (he : e.columns = rules.columns)
    (hr : rule ∈ rules.rules) (hmatch : applyRule e place before rule = .matched stop row after) :
    let values := (row.toRecord e.columns e.today).values
    let writes := fun i => dateWrites e i (madeByRule e place before rule)
    let guessed := fun i => (writes i).any Write.guesses
    (∀ i day month year, e.columns.operandType? (.declared i) = some .date →
      Receives (writes i) day month year →
        values[i]? = some (.date (shownDate e.today (guessed i) year month day)) ∧
          (values[i]? = some (.date (Date.orEarliest year month day)) ↔
            guessed i = false ∨ ¬ ShowsGuess e.today year month day)) ∧
      ∀ i j done more, e.columns.operandType? (.declared i) = some .date →
        e.columns.operandType? (.declared j) = some .date →
        rule.calls = done ++
          ⟨.assign, [.operand (.column (.declared j)), .operand (.column (.declared i))]⟩ :: more →
        (∀ call ∈ more, .declared i ∉ call.targets ∧ .declared j ∉ call.targets) →
          ∃ day month year, Receives (writes i) day month year ∧
            Receives (writes j) day month year ∧
            (values[i]? = values[j]? ↔
              guessed i = guessed j ∨ ¬ ShowsGuess e.today year month day) := by
  intro values writes guessed
  have hrule := Rule.isChecked_of_compile h he hr
  refine ⟨fun i day month year hi hreceives => ?_, fun i j done more hi hj hcalls hmore => ?_⟩
  · have hvalue : values[i]? = _ := value_of_applyRule hrule hi hmatch hreceives
    refine ⟨hvalue, ?_⟩
    have hlisted : Date.orEarliest year month day = shownDate e.today false year month day := by
      simp [shownDate]
    rw [hvalue, hlisted, Option.some.injEq, Value.date.injEq, shownDate_eq_iff]
  · obtain ⟨day, month, year, hri, hrj⟩ := receives_of_assign hrule hi hj hcalls hmore hmatch
    have hvi : values[i]? = _ := value_of_applyRule hrule hi hmatch hri
    have hvj : values[j]? = _ := value_of_applyRule hrule hj hmatch hrj
    refine ⟨day, month, year, hri, hrj, ?_⟩
    rw [hvi, hvj, Option.some.injEq, Value.date.injEq, shownDate_eq_iff]

end Rules

namespace Stale

def columns : ColumnSet :=
  ⟨[⟨"name".toList, .name, .empty⟩, ⟨['a'], .generalDate, .empty⟩, ⟨['b'], .generalDate, .empty⟩,
    ⟨['t'], .generalTime, .empty⟩], 0⟩

def source : Text :=
  "* day(<a>), white_spaces(), month(<a>), white_spaces(), year_or_time(<a>, <t>), ".toList ++
    "white_spaces(), year(<a>), white_spaces(), word(<name>);\n".toList ++
    "* day(<a>), white_spaces(), month(<a>), white_spaces(), year_or_time(<a>, <t>), ".toList ++
    "white_spaces(), assign(<b>, <a>), word(<name>);\n".toList

def opening : List Call :=
  [⟨.day, [.operand (.column (.declared 1))]⟩, ⟨.whiteSpaces, []⟩,
   ⟨.month, [.operand (.column (.declared 1))]⟩, ⟨.whiteSpaces, []⟩,
   ⟨.yearOrTime, [.operand (.column (.declared 1)), .operand (.column (.declared 3))]⟩,
   ⟨.whiteSpaces, []⟩]

def word : Call :=
  ⟨.word, [.operand (.column (.declared 0))]⟩

def withYear : Rule :=
  ⟨opening ++ [⟨.year, [.operand (.column (.declared 1))]⟩, ⟨.whiteSpaces, []⟩, word]⟩

def assignment : Call :=
  ⟨.assign, [.operand (.column (.declared 2)), .operand (.column (.declared 1))]⟩

def withAssignment : Rule :=
  ⟨opening ++ [assignment, word]⟩

def rules : RuleSet :=
  ⟨[withYear, withAssignment], columns⟩

set_option maxRecDepth 4000 in
theorem compile_source : RuleSet.compile source columns = .ok rules := by rfl

theorem isDay_today : IsDay 2024 1 10 := by decide

def context : Context :=
  { today := ⟨2024, 1, 10, isDay_today⟩ }

def listing : Text :=
  "31 12 10:30 2020 x\n31 12 10:30 y\n".toList

def halfPastTen : Time :=
  ⟨10, 30, 0, 0, by decide⟩

def record (name : Text) (a b : Value) : FileRecord :=
  { name, isDir := false, isHidden := false, isLink := false, size := 0, modified := none
    extension := none, values := [.text name, a, b, .time halfPastTen] }

/-- The year 2020 that the first line lists is shown as 2019, and on the second line the two columns
differ though one was assigned to the other. -/
theorem parse_stale :
    RuleSet.compile source columns = .ok rules ∧
      parse rules listing context = .ok
        [record ['x'] (.date ⟨2019, 12, 31, by decide⟩) .empty,
         record ['y'] (.date ⟨2023, 12, 31, by decide⟩) (.date ⟨2024, 12, 31, by decide⟩)] :=
  ⟨compile_source, by rfl⟩

def surroundings : Surroundings :=
  Reading.surroundings columns context listing

def atFirst : Cursor :=
  Cursor.ofText listing

def atSecond : Cursor :=
  ⟨"\nx 0202 03:01 21 13".toList, "31 12 10:30 y\n".toList⟩

def firstRow : Row :=
  { cells := [.text ['x'], .date ⟨some 31, some 12, some 2020, true⟩, .blank, .time halfPastTen] }

def secondRow : Row :=
  { cells := [.text ['y'], .date ⟨some 31, some 12, some 2024, true⟩,
      .date ⟨some 31, some 12, some 2024, false⟩, .time halfPastTen] }

theorem date_of_applyRule_stale :
    (firstRow.toRecord columns context.today).values[1]? =
        some (.date (shownDate context.today true 2020 12 31)) ∧
      (secondRow.toRecord columns context.today).values[1]? ≠
        (secondRow.toRecord columns context.today).values[2]? := by
  have hfirst : applyRule surroundings atFirst Languages.all withYear =
      .matched atSecond firstRow Languages.all := by rfl
  have hsecond : applyRule surroundings atSecond Languages.all withAssignment =
      .matched ⟨listing.reverse, []⟩ secondRow Languages.all := by rfl
  have hreceives : Receives (dateWrites surroundings 1
      (madeByRule surroundings atFirst Languages.all withYear)) 31 12 2020 :=
    ⟨by rfl, by rfl, by rfl⟩
  have hshown :=
    (date_of_applyRule (e := surroundings) compile_source rfl (by simp [rules]) hfirst).1
      1 31 12 2020 rfl hreceives
  obtain ⟨day, month, year, ⟨hday, hmonth, hyear⟩, -, hsame⟩ :=
    (date_of_applyRule (e := surroundings) compile_source rfl (by simp [rules]) hsecond).2
      1 2 opening [word] rfl rfl rfl (by decide)
  obtain rfl : 31 = day := Option.some.inj hday
  obtain rfl : 12 = month := Option.some.inj hmonth
  obtain rfl : 2024 = year := Option.some.inj hyear
  refine ⟨hshown.1, fun h => ?_⟩
  rcases hsame.1 h with hguessed | hno
  · cases hguessed
  · exact hno (by decide)

end Stale

end Listing

end ListingRules
