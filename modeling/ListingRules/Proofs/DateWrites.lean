import ListingRules.Proofs.CallsMade
import ListingRules.Proofs.Targets

namespace ListingRules.Listing

namespace Row

def dateParts (r : Row) (i : Nat) : DateParts :=
  (r.cells[i]?.getD .blank).dateParts

theorem dateParts_empty (s : ColumnSet) (i : Nat) : (Row.empty s).dateParts i = {} := by
  simp only [dateParts, Row.empty, List.getElem?_map]
  cases s.columns[i]? <;> rfl

theorem dateParts_eq {r : Row} {i : Nat} {cell : Cell} (h : r.cells[i]? = some cell) :
    r.dateParts i = cell.dateParts := by
  simp [dateParts, h]

end Row

namespace Write

def onParts (w : Write) (d : DateParts) : DateParts :=
  match w with
  | dayPart n => { d with day := some n }
  | monthPart n => { d with month := some n }
  | yearPart n isGuess => { d with year := some n, yearIsGuess := isGuess || d.yearIsGuess }
  | wholeDate day month year => { d with day, month, year }
  | _ => d

def day? : Write → Option Nat
  | dayPart n => some n
  | wholeDate day _ _ => some day
  | _ => none

def month? : Write → Option Nat
  | monthPart n => some n
  | wholeDate _ month _ => some month
  | _ => none

def year? : Write → Option Int
  | yearPart n _ => some n
  | wholeDate _ _ year => some year
  | _ => none

def guesses : Write → Bool
  | yearPart _ isGuess => isGuess
  | _ => false

variable (w : Write) (d : DateParts)

theorem day_onParts : (w.onParts d).day = w.day?.or d.day := by
  cases w <;> rfl

theorem month_onParts : (w.onParts d).month = w.month?.or d.month := by
  cases w <;> rfl

theorem year_onParts : (w.onParts d).year = w.year?.or d.year := by
  cases w <;> rfl

theorem yearIsGuess_onParts : (w.onParts d).yearIsGuess = (w.guesses || d.yearIsGuess) := by
  cases w <;> rfl

end Write

def dateWrite? (e : Surroundings) (m : Made) : Option Write :=
  let place := m.attempt.place
  match m.call.function, m.call.params with
  | .day, [_] => place.digits?.map fun read => .dayPart read.1
  | .month, [_] => place.digits?.map fun read => .monthPart read.1
  | .month3, [_] =>
      (MonthName.readShort? (place.ahead.take 3) m.attempt.languages).map fun read =>
        .monthPart read.1
  | .month3, [_, .operand (.text names)] =>
      (MonthName.readShortFrom? names (place.ahead.take 3)).map .monthPart
  | .monthTxt, [_] =>
      (MonthName.readLong? (place.ahead.takeWhile Text.isVisible) m.attempt.languages).map
        fun read => .monthPart read.1
  | .monthTxt, [_, .operand (.text names)] =>
      (MonthName.readLongFrom? names (place.ahead.takeWhile Text.isVisible)).map fun read =>
        .monthPart read.1
  | .year, [_] => place.digits?.map fun read => .yearPart (Attempt.fullYear read.1) false
  | .yearOrTime, [_, _] =>
      place.yearOrTime?.map fun read =>
        match read.1 with
        | .year y => .yearPart y false
        | .time _ => .yearPart e.today.year true
  | .assign, [_, .operand o] =>
      (dateOf? m.attempt o).map fun (day, month, year) => .wholeDate day month year
  | _, _ => none

def dateWrites (e : Surroundings) (i : Nat) (calls : List Made) : List Write :=
  (calls.filter fun m => decide (.declared i ∈ m.call.targets)).filterMap (dateWrite? e)

def partsOf (writes : List Write) : DateParts :=
  writes.foldl (fun d w => w.onParts d) {}

def lastOf {α : Type} (f : Write → Option α) (writes : List Write) : Option α :=
  (writes.filterMap f).getLast?

section Folds

theorem foldl_last {α : Type} {part : DateParts → Option α} {f : Write → Option α}
    (hstep : ∀ w d, part (w.onParts d) = (f w).or (part d)) (writes : List Write)
    (d : DateParts) :
    part (writes.foldl (fun d w => w.onParts d) d) = (lastOf f writes).or (part d) := by
  induction writes generalizing d with
  | nil => rfl
  | cons w writes ih =>
      rw [List.foldl_cons, ih, hstep, lastOf, lastOf]
      cases hw : f w with
      | none => simp [hw]
      | some x =>
          cases hl : (writes.filterMap f).getLast? <;> simp [hw, List.getLast?_cons, hl]

variable (writes : List Write)

theorem day_partsOf : (partsOf writes).day = lastOf Write.day? writes :=
  (foldl_last Write.day_onParts writes {}).trans (by simp)

theorem month_partsOf : (partsOf writes).month = lastOf Write.month? writes :=
  (foldl_last Write.month_onParts writes {}).trans (by simp)

theorem year_partsOf : (partsOf writes).year = lastOf Write.year? writes :=
  (foldl_last Write.year_onParts writes {}).trans (by simp)

theorem yearIsGuess_foldl (d : DateParts) :
    (writes.foldl (fun d w => w.onParts d) d).yearIsGuess =
      (writes.any Write.guesses || d.yearIsGuess) := by
  induction writes generalizing d with
  | nil => rfl
  | cons w writes ih =>
      rw [List.foldl_cons, ih, Write.yearIsGuess_onParts, List.any_cons, ← Bool.or_assoc,
        Bool.or_comm (writes.any _)]

theorem yearIsGuess_partsOf : (partsOf writes).yearIsGuess = writes.any Write.guesses :=
  (yearIsGuess_foldl writes {}).trans (by simp)

end Folds

namespace Attempt

variable {e : Surroundings} {s : ColumnSet} {a b : Attempt} {c : ColumnRef} {i : Nat}

theorem dateParts_of_setDate {f : DateParts → DateParts} {r : Row}
    (h : a.setDate s f (.declared i) = .continues b) (hrow : a.row = r) :
    b.row.dateParts i = f (r.dateParts i) := by
  subst hrow
  obtain ⟨j, column, old, new, hij, -, hold, hnew, rfl⟩ := exists_of_modify h
  obtain rfl := ColumnRef.declared.inj hij
  obtain rfl := Option.some.inj hnew
  obtain ⟨hlt, -⟩ := List.getElem?_eq_some_iff.1 hold
  have hset : (a.row.set i (.date (f old.dateParts))).cells[i]? =
      some (.date (f old.dateParts)) := by
    simp [Row.set, hlt]
  rw [Row.dateParts_eq hold, Row.dateParts_eq hset]
  rfl

theorem exists_of_takeMonth3 (names : Option Text) (h : a.takeMonth3 s names c = .continues b) :
    let word := a.place.ahead.take 3
    ∃ read : Nat × Languages,
      names.elim (MonthName.readShort? word a.languages) (fun list =>
        (MonthName.readShortFrom? list word).map (·, a.languages)) = some read ∧
      ({ a with place := a.place.advance 3, languages := read.2 } : Attempt).setDate s
        (fun d => { d with month := some read.1 }) c = .continues b := by
  intro word
  simp only [takeMonth3] at h
  split at h
  · simp at h
  · rename_i month left hread
    split at h
    · simp at h
    · refine ⟨(month, left), ?_, h⟩
      rw [Option.ite_none_right_eq_some] at hread
      cases names with
      | none => exact hread.2
      | some list => exact hread.2

theorem exists_of_takeMonthTxt (names : Option Text)
    (h : a.takeMonthTxt s names c = .continues b) :
    let word := a.place.ahead.takeWhile Text.isVisible
    ∃ read : Nat × Nat × Languages,
      names.elim (MonthName.readLong? word a.languages) (fun list =>
        (MonthName.readLongFrom? list word).map fun (m, n) => (m, n, a.languages)) = some read ∧
      ({ a with place := a.place.advance read.2.1, languages := read.2.2 } : Attempt).setDate s
        (fun d => { d with month := some read.1 }) c = .continues b := by
  intro word
  simp only [takeMonthTxt] at h
  split at h
  · simp at h
  · rename_i month length left hread
    split at h
    · simp at h
    · refine ⟨(month, length, left), ?_, h⟩
      rw [Option.ite_none_left_eq_some] at hread
      cases names with
      | none => exact hread.2
      | some list => exact hread.2

theorem exists_of_takeDatePart {f : Nat → Option (DateParts → DateParts)}
    (h : a.takeDatePart s f c = .continues b) :
    ∃ read change, a.place.digits? = some read ∧ f read.1 = some change ∧
      ({ a with place := read.2 } : Attempt).setDate s change c = .continues b := by
  simp only [takeDatePart] at h
  split at h
  · rename_i n d hread
    split at h
    · rename_i change hchange
      exact ⟨(n, d), change, hread, (Option.ite_none_left_eq_some.1 hchange).2, h⟩
    · simp at h
  · simp at h

theorem exists_of_takeYearOrTime {time : ColumnRef}
    (h : a.takeYearOrTime e c time = .continues b) :
    (∃ y d, a.place.yearOrTime? = some (.year y, d) ∧
      ({ a with place := d } : Attempt).setDate e.columns
        (fun d => { d with year := some (y : Int) }) c = .continues b) ∨
    ∃ t d between, a.place.yearOrTime? = some (.time t, d) ∧
      ({ a with place := d } : Attempt).setDate e.columns
        (fun d => { d with year := some e.today.year, yearIsGuess := true }) c =
          .continues between ∧
      between.setTime e.columns t time = .continues b := by
  simp only [takeYearOrTime] at h
  split at h
  · rename_i y d hread
    exact .inl ⟨y, d, hread, h⟩
  · rename_i t d hread
    obtain ⟨between, hset, hbetween⟩ := Outcome.exists_of_andThen h
    exact .inr ⟨t, d, between, hread, hset, hbetween⟩
  · simp at h

theorem exists_of_assignDate {o : Operand} (hc : e.columns.operandType? c = some .date)
    (h : a.assign e c (.operand o) = .continues b) :
    ∃ day month year, dateOf? a o = some (day, month, year) ∧
      a.setDate e.columns (Write.wholeDate day month year).onParts c = .continues b := by
  obtain ⟨i, rfl⟩ : ∃ i, c = .declared i := by
    cases c with
    | declared i => exact ⟨i, rfl⟩
    | _ => cases hc
  simp only [assign, hc] at h
  cases hdate : dateOf? a o with
  | none => simp [hdate] at h
  | some date =>
      rw [hdate] at h
      exact ⟨date.1, date.2.1, date.2.2, rfl, h⟩

theorem dateParts_of_setTime {t : Time} {d : ColumnRef} (hd : .declared i ≠ d)
    (h : a.setTime s t d = .continues b) : b.row.dateParts i = a.row.dateParts i := by
  obtain ⟨j, column, old, new, rfl, -, -, -, rfl⟩ := exists_of_modify h
  have hij : j ≠ i := by
    rintro rfl
    exact hd rfl
  simp [Row.dateParts, Row.set, List.getElem?_set_ne hij]

theorem exists_dateWrite {call : Call} (htakes : call.Takes .date (.declared i))
    (hi : e.columns.operandType? (.declared i) = some .date)
    (h : a.apply e call = .continues b) :
    ∃ w, dateWrite? e ⟨call, a⟩ = some w ∧
      b.row.dateParts i = w.onParts (a.row.dateParts i) := by
  cases htakes with
  | month hf =>
      rcases hf with rfl | rfl | rfl
      · obtain ⟨read, hread, hset⟩ := exists_of_takeMonth3 none h
        exact ⟨.monthPart read.1, Option.map_eq_some_iff.2 ⟨read, hread, rfl⟩,
          dateParts_of_setDate hset rfl⟩
      · obtain ⟨read, hread, hset⟩ := exists_of_takeMonthTxt none h
        exact ⟨.monthPart read.1, Option.map_eq_some_iff.2 ⟨read, hread, rfl⟩,
          dateParts_of_setDate hset rfl⟩
      · obtain ⟨read, change, hread, hchange, hset⟩ := exists_of_takeDatePart h
        obtain rfl := Option.some.inj (Option.ite_none_right_eq_some.1 hchange).2
        exact ⟨.monthPart read.1, Option.map_eq_some_iff.2 ⟨read, hread, rfl⟩,
          dateParts_of_setDate hset rfl⟩
  | listedMonth names hf =>
      rcases hf with rfl | rfl
      · obtain ⟨read, hread, hset⟩ := exists_of_takeMonth3 (some names) h
        obtain ⟨n, hn, rfl⟩ := Option.map_eq_some_iff.1 hread
        exact ⟨.monthPart n, Option.map_eq_some_iff.2 ⟨n, hn, rfl⟩,
          dateParts_of_setDate hset rfl⟩
      · obtain ⟨read, hread, hset⟩ := exists_of_takeMonthTxt (some names) h
        obtain ⟨n, hn, rfl⟩ := Option.map_eq_some_iff.1 hread
        exact ⟨.monthPart n.1, Option.map_eq_some_iff.2 ⟨n, hn, rfl⟩,
          dateParts_of_setDate hset rfl⟩
  | day =>
      obtain ⟨read, change, hread, hchange, hset⟩ := exists_of_takeDatePart h
      obtain rfl := Option.some.inj (Option.ite_none_right_eq_some.1 hchange).2
      exact ⟨.dayPart read.1, Option.map_eq_some_iff.2 ⟨read, hread, rfl⟩,
        dateParts_of_setDate hset rfl⟩
  | year =>
      obtain ⟨read, change, hread, hchange, hset⟩ := exists_of_takeDatePart h
      obtain rfl := Option.some.inj (Option.ite_none_right_eq_some.1 hchange).2
      exact ⟨.yearPart (fullYear read.1) false, Option.map_eq_some_iff.2 ⟨read, hread, rfl⟩,
        dateParts_of_setDate hset rfl⟩
  | yearOrTime hne =>
      obtain ⟨y, d, hread, hset⟩ | ⟨t, d, between, hread, hset, ht⟩ :=
        exists_of_takeYearOrTime h
      · exact ⟨.yearPart y false, Option.map_eq_some_iff.2 ⟨_, hread, rfl⟩,
          dateParts_of_setDate hset rfl⟩
      · refine ⟨.yearPart e.today.year true, Option.map_eq_some_iff.2 ⟨_, hread, rfl⟩, ?_⟩
        -- the time goes to another column
        rw [dateParts_of_setTime hne ht]
        exact dateParts_of_setDate hset rfl
  | assign o =>
      obtain ⟨day, month, year, hdate, hset⟩ := exists_of_assignDate hi h
      exact ⟨.wholeDate day month year, Option.map_eq_some_iff.2 ⟨_, hdate, rfl⟩,
        dateParts_of_setDate hset rfl⟩

theorem dateParts_of_apply {call : Call} {eff : Effect} (haccepted : call.Accepted e.columns eff)
    (hi : e.columns.operandType? (.declared i) = some .date)
    (h : a.apply e call = .continues b) :
    b.row.dateParts i =
      (dateWrites e i [⟨call, a⟩]).foldl (fun d w => w.onParts d) (a.row.dateParts i) := by
  by_cases htarget : .declared i ∈ call.targets
  · obtain ⟨w, hw, hparts⟩ := exists_dateWrite (haccepted.takes htarget hi) hi h
    simp [dateWrites, htarget, hw, hparts]
  · have hcell := cell_of_applyAll ((applyAll_singleton e call a).trans h)
      (by simpa using htarget)
    simp [dateWrites, htarget, Row.dateParts, hcell]

end Attempt

section Runs

variable {e : Surroundings} {calls : List Call} {a b : Attempt} {w v : Written} {i : Nat}

theorem dateWrites_append (e : Surroundings) (i : Nat) (done more : List Made) :
    dateWrites e i (done ++ more) = dateWrites e i done ++ dateWrites e i more := by
  simp [dateWrites]

theorem dateParts_of_applyAll (hchecked : Checked e.columns calls w v)
    (hi : e.columns.operandType? (.declared i) = some .date)
    (h : applyAll e calls a = .continues b) :
    b.row.dateParts i =
      (dateWrites e i (made e calls a)).foldl (fun d w => w.onParts d) (a.row.dateParts i) := by
  induction hchecked generalizing a with
  | nil =>
      obtain rfl := Outcome.continues.inj h
      rfl
  | @cons call more _ _ _ _ hcheck _ ih =>
      obtain ⟨eff, haccepted, -⟩ := Call.accepted_of_check hcheck
      simp only [applyAll] at h
      cases ho : a.apply e call with
      | continues c =>
          rw [ho] at h
          have hmade : made e (call :: more) a = [⟨call, a⟩] ++ made e more c := by
            simp [made, ho]
          rw [hmade, dateWrites_append, List.foldl_append, ih h,
            Attempt.dateParts_of_apply haccepted hi ho]
      | _ => simp [ho] at h

theorem dateParts_of_applyRule {rule : Rule} (hrule : Rule.IsChecked e.columns rule)
    (hi : e.columns.operandType? (.declared i) = some .date) {place stop : Cursor} {row : Row}
    {before after : Languages} (h : applyRule e place before rule = .matched stop row after) :
    row.dateParts i = partsOf (dateWrites e i (madeByRule e place before rule)) := by
  obtain ⟨v, hchecked⟩ := hrule
  obtain ⟨c, ho⟩ := applyAll_of_applyRule h
  rw [dateParts_of_applyAll (b := ⟨c, row, after⟩) hchecked hi ho, Row.dateParts_empty]
  rfl

end Runs

end ListingRules.Listing
