import ListingRules.Proofs.ColumnChecks
import ListingRules.Proofs.ReadDates
import ListingRules.Proofs.SizeColumn

namespace ListingRules

namespace ColumnSet

theorem exists_definition {ds : List ColumnDefinition} {s : ColumnSet}
    (h : ofDefinitions ds = .ok s) {i : Nat} {c : Column} (hi : s.get? i = some c) :
    ∃ d, ds[i]? = some d ∧ c.kind = d.kind ∧ d.emptyValue? = some c.empty := by
  have hall := forall₂_of_columnsFrom (columnsFrom_of_definitions h)
  obtain ⟨hlt, rfl⟩ := List.getElem?_eq_some_iff.1 (show s.columns[i]? = some c from hi)
  have hlt' : i < ds.length := hall.length_eq ▸ hlt
  exact ⟨ds[i], List.getElem?_eq_getElem hlt', (hall.get hlt' hlt).2⟩

end ColumnSet

namespace Listing

namespace Made

/-- The columns that a call writes to where the attempt goes on. A year leaves the time as it was,
and a line without an arrow leaves the target. -/
def writes (m : Made) : List ColumnRef :=
  match m.call.function, m.call.params with
  | .yearOrTime, [.operand (.column date), .operand (.column time)] =>
      match m.attempt.place.yearOrTime? with
      | some (.time _, _) => [date, time]
      | _ => [date]
  | .unixLink, [_, .operand (.column name), .operand (.column link)] =>
      if (Link.ofLine? m.attempt.place.restOfLine).any (·.target.isSome) then [name, link]
      else [name]
  | _, _ => m.call.targets

def ReadsNegative (i : Nat) (m : Made) : Prop :=
  m.call = ⟨.positiveNumber, [.operand (.column (.declared i))]⟩ ∧
    ∃ read, m.attempt.place.signedDigits? = some read ∧ read.1 < 0

end Made

def ReadsNegativeLast (i : Nat) (calls : List Made) : Prop :=
  ∃ done m more, calls = done ++ m :: more ∧ m.ReadsNegative i ∧
    ∀ n ∈ more, .declared i ∉ n.writes

section Cells

variable {e : Surroundings} {s : ColumnSet} {a b : Attempt} {call : Call} {calls : List Call}
  {c : ColumnRef} {i : Nat}

theorem Attempt.cell_of_modify_ne {f : ColumnKind → Cell → Option Cell}
    (h : a.modify s f c = .continues b) (hne : .declared i ≠ c) :
    b.row.cells[i]? = a.row.cells[i]? := by
  obtain ⟨j, -, -, -, rfl, -, -, -, rfl⟩ := exists_of_modify h
  exact List.getElem?_set_ne fun hji => hne (congrArg _ hji.symm)

theorem cell_of_takeYearOrTime {date time : ColumnRef}
    (h : a.takeYearOrTime e date time = .continues b) (hdate : .declared i ≠ date)
    (htime : ∀ t d, a.place.yearOrTime? = some (.time t, d) → .declared i ≠ time) :
    b.row.cells[i]? = a.row.cells[i]? := by
  obtain ⟨y, d, -, hset⟩ | ⟨t, d, between, hread, hset, ht⟩ := Attempt.exists_of_takeYearOrTime h
  · have hcell := Attempt.cell_of_modify_ne hset hdate
    exact hcell
  · have hcell := Attempt.cell_of_modify_ne hset hdate
    rw [Attempt.cell_of_modify_ne ht (htime t d hread)]
    exact hcell

theorem cell_of_takeLink {name link : ColumnRef} (h : a.takeLink s name link = .continues b)
    (hname : .declared i ≠ name)
    (hlink : ∀ l, Link.ofLine? a.place.restOfLine = some l → l.target.isSome = true →
      .declared i ≠ link) :
    b.row.cells[i]? = a.row.cells[i]? := by
  simp only [Attempt.takeLink] at h
  split at h
  · simp at h
  · rename_i l hl
    obtain ⟨c, hc, h⟩ := Outcome.exists_of_andThen h
    have hcell := Attempt.cell_of_modify_ne hc hname
    split at h
    · obtain rfl := Outcome.continues.inj h
      exact hcell
    · rename_i t ht
      rw [Attempt.cell_of_modify_ne h (hlink l hl (by simp [ht]))]
      exact hcell

theorem cell_of_apply (h : a.apply e call = .continues b)
    (hi : .declared i ∉ (⟨call, a⟩ : Made).writes) : b.row.cells[i]? = a.row.cells[i]? := by
  obtain ⟨f, ps⟩ := call
  simp only [Made.writes] at hi
  split at hi
  · rename_i date time
    refine cell_of_takeYearOrTime h ?_ fun t d hread => ?_
    · split at hi <;> simp_all
    · simp [hread] at hi
      exact hi.2
  · rename_i first name link
    refine cell_of_takeLink h ?_ fun l hl ht => ?_
    · split at hi <;> simp_all
    · simp [hl, ht] at hi
      exact hi.2
  · exact cell_of_applyAll ((applyAll_singleton e _ a).trans h) (by simpa using hi)

theorem cell_of_unwritten (h : applyAll e calls a = .continues b)
    (hi : ∀ m ∈ made e calls a, .declared i ∉ m.writes) :
    b.row.cells[i]? = a.row.cells[i]? := by
  induction calls generalizing a with
  | nil =>
      obtain rfl := Outcome.continues.inj h
      rfl
  | cons call more ih =>
      simp only [applyAll] at h
      cases ho : a.apply e call with
      | continues c =>
          rw [ho] at h
          simp only [made, ho, List.forall_mem_cons] at hi
          rw [ih h hi.2, cell_of_apply ho hi.1]
      | _ => simp [ho] at h

theorem exists_of_made_append {done more : List Made} {m : Made}
    (h : applyAll e calls a = .continues b) (hmade : made e calls a = done ++ m :: more) :
    ∃ c rest, m.attempt.apply e m.call = .continues c ∧ applyAll e rest c = .continues b ∧
      made e rest c = more := by
  induction calls generalizing a done with
  | nil => simp [made] at hmade
  | cons call rest ih =>
      simp only [applyAll] at h
      cases ho : a.apply e call with
      | continues c =>
          rw [ho] at h
          simp only [made, ho] at hmade
          cases done with
          | nil =>
              obtain ⟨rfl, hmore⟩ := List.cons.inj hmade
              exact ⟨c, rest, ho, h, hmore⟩
          | cons _ done => exact ih h (List.cons.inj hmade).2
      | _ => simp [ho] at h

theorem cell_of_readsNegative {m : Made} {column : Column} (hm : m.ReadsNegative i)
    (hi : e.columns.get? i = some column) (h : m.attempt.apply e m.call = .continues b) :
    b.row.cells[i]? = some (.number (if column.kind = .size then some 0 else none)) := by
  obtain ⟨⟨f, ps⟩, a⟩ := m
  obtain ⟨hcall, ⟨n, d⟩, hread, hn⟩ := hm
  obtain ⟨rfl, rfl⟩ := Call.mk.inj hcall
  have hn : n < 0 := hn
  simp only [Attempt.apply, Attempt.takeNumber] at h
  rw [hread] at h
  dsimp only at h
  split at h
  · simp at h
  · obtain ⟨old, new, -, hnew, hcell⟩ := Attempt.cell_of_modify hi h
    rw [hcell]
    obtain ⟨kept, hkept, rfl⟩ := Option.map_eq_some_iff.1 hnew
    rw [keptNumber?, if_neg (by omega)] at hkept
    split at hkept <;> simp_all

theorem cell_of_readsNegativeLast {column : Column} (hlast : ReadsNegativeLast i (made e calls a))
    (hi : e.columns.get? i = some column) (h : applyAll e calls a = .continues b) :
    b.row.cells[i]? = some (.number (if column.kind = .size then some 0 else none)) := by
  obtain ⟨done, m, more, hmade, hm, hmore⟩ := hlast
  obtain ⟨c, rest, hc, hrest, rfl⟩ := exists_of_made_append h hmade
  rw [cell_of_unwritten hrest hmore, cell_of_readsNegative hm hi hc]

end Cells

def Misses (writes : List Write) : Prop :=
  lastOf Write.day? writes = none ∨ lastOf Write.month? writes = none ∨
    lastOf Write.year? writes = none

theorem whole?_of_misses {writes : List Write} (h : Misses writes) :
    (partsOf writes).whole? = none := by
  rw [Option.eq_none_iff_forall_ne_some]
  rintro ⟨day, month, year⟩ hwhole
  obtain ⟨hday, hmonth, hyear⟩ := receives_iff.2 hwhole
  simp [Misses, hday, hmonth, hyear] at h

section Values

variable {column : Column} {cell : Cell} (today : Date) (name : Text) (extension : Option Text)

theorem shownValue_blank (hkind : column.kind ≠ .name) (htype : column.kind.operandType?.isSome) :
    shownValue today name extension column .blank = column.empty := by
  cases hk : column.kind <;>
    simp_all [shownValue, ColumnKind.operandType?, Cell.dateParts, DateParts.resolve?,
      DateParts.whole?]

theorem shownValue_of_partial_date (htype : column.kind.operandType? = some .date)
    (hparts : cell.dateParts.whole? = none) :
    shownValue today name extension column cell = column.empty := by
  have hkind : column.kind = .date ∨ column.kind = .generalDate := by
    cases hk : column.kind <;> simp [hk, ColumnKind.operandType?] at htype ⊢
  rcases hkind with hkind | hkind <;> simp [shownValue, hkind, DateParts.resolve?, hparts]

theorem shownValue_of_readsNegative (htype : column.kind.operandType? = some .number) :
    shownValue today name extension column
        (.number (if column.kind = .size then some 0 else none)) =
      Value.defaultFor column.kind := by
  have hkind : column.kind = .size ∨ column.kind = .number := by
    cases hk : column.kind <;> simp [hk, ColumnKind.operandType?] at htype ⊢
  rcases hkind with hkind | hkind <;> simp [shownValue, hkind, Value.defaultFor]

end Values

section Rules

variable {e : Surroundings} {rule : Rule} {place stop : Cursor} {row : Row}
  {before after : Languages} {i : Nat} {column : Column}

/-- What a record shows in a column that a rule has not written to, or not as a whole. A negative
number that is not kept leaves the value that the kind of the column has, whatever is declared. -/
theorem values_of_applyRule {definitions : List ColumnDefinition} {columns : ColumnSet}
    (hcolumns : ColumnSet.ofDefinitions definitions = .ok columns) {source : Text}
    {rules : RuleSet} (h : RuleSet.compile source columns = .ok rules)
    (he : e.columns = rules.columns) (hr : rule ∈ rules.rules)
    (hmatch : applyRule e place before rule = .matched stop row after)
    (hi : columns.get? i = some column) (hkind : column.kind ≠ .name)
    (htype : column.kind.operandType?.isSome) :
    let record := row.toRecord e.columns e.today
    let calls := madeByRule e place before rule
    (∃ d, definitions[i]? = some d ∧ column.kind = d.kind ∧ d.emptyValue? = some column.empty) ∧
      ((∀ m ∈ calls, .declared i ∉ m.writes) → record.values[i]? = some column.empty) ∧
      (column.kind.operandType? = some .date →
        Misses (dateWrites e i calls) → record.values[i]? = some column.empty) ∧
      (ReadsNegativeLast i calls →
        record.values[i]? = some (Value.defaultFor column.kind) ∧
          (record.values[i]? = some column.empty ↔
            column.empty = Value.defaultFor column.kind)) ∧
      (column.kind = .size →
        ∃ n, record.values[i]? = some (.number n) ∧ record.size = n.toNat) := by
  intro record calls
  have hrule := Rule.isChecked_of_compile h he hr
  rw [RuleSet.columns_of_compile h] at he
  subst he
  obtain ⟨v, hchecked⟩ := hrule
  obtain ⟨c, ho⟩ := applyAll_of_applyRule hmatch
  have hkeeps := keeps_of_succeeds (succeeds_of_applyAll ho) hchecked Row.keeps_empty
  obtain ⟨cell, hcell, hfits⟩ := hkeeps.typed.exists_cell hi
  have hvalue : record.values[i]? = some _ := Row.value_toRecord hi hcell e.today
  refine ⟨ColumnSet.exists_definition hcolumns hi, fun hunwritten => ?_, fun hdate hmisses => ?_,
    fun hlast => ?_, fun hsize => ?_⟩
  · have hblank := cell_of_unwritten ho hunwritten
    have hcolumn : e.columns.columns[i]? = some column := hi
    have hempty : (Row.empty e.columns).cells[i]? = some .blank := by
      rw [Row.empty, List.getElem?_map, hcolumn, Option.map_some]
    obtain rfl := Option.some.inj (hcell.symm.trans (hblank.trans hempty))
    rw [hvalue, shownValue_blank _ _ _ hkind htype]
  · have hcolumn : e.columns.operandType? (.declared i) = some .date := by
      simp [ColumnSet.operandType?, hi, hdate]
    have hparts := dateParts_of_applyRule ⟨v, hchecked⟩ hcolumn hmatch
    rw [Row.dateParts_eq hcell] at hparts
    rw [hvalue, shownValue_of_partial_date _ _ _ hdate (hparts ▸ whole?_of_misses hmisses)]
  · obtain rfl := Option.some.inj (hcell.symm.trans (cell_of_readsNegativeLast hlast hi ho))
    rw [hvalue, shownValue_of_readsNegative _ _ _ (hfits .number rfl)]
    exact ⟨rfl, by rw [Option.some.injEq, eq_comm]⟩
  · have htype : column.kind.operandType? = some .number := by
      simp [hsize, ColumnKind.operandType?]
    obtain ⟨n, hn, hrecord, -⟩ := Row.size_toRecord (ColumnSet.wellKinded_of_definitions hcolumns)
      hi hsize hcell (htype ▸ hfits) e.today
    exact ⟨n, hn, hrecord⟩

end Rules

namespace Unkept

def definitions : List ColumnDefinition :=
  [⟨"name".toList, .name, none⟩, ⟨['n'], .number, some ['7']⟩,
   ⟨"size".toList, .size, some ['5']⟩, ⟨['d'], .generalDate, some "1.2.2000".toList⟩,
   ⟨"owner".toList, .text, some "nobody".toList⟩]

def columns : ColumnSet :=
  ⟨[⟨"name".toList, .name, .empty⟩, ⟨['n'], .number, .number 7⟩, ⟨"size".toList, .size, .number 5⟩,
    ⟨['d'], .generalDate, .date ⟨2000, 2, 1, by decide⟩⟩,
    ⟨"owner".toList, .text, .text "nobody".toList⟩], 0⟩

def source : Text :=
  "* positive_number(<n>), white_spaces(), positive_number(<size>), white_spaces(), ".toList ++
    "day(<d>), white_spaces(), word(<name>);\n".toList

def rule : Rule :=
  ⟨[⟨.positiveNumber, [.operand (.column (.declared 1))]⟩, ⟨.whiteSpaces, []⟩,
    ⟨.positiveNumber, [.operand (.column (.declared 2))]⟩, ⟨.whiteSpaces, []⟩,
    ⟨.day, [.operand (.column (.declared 3))]⟩, ⟨.whiteSpaces, []⟩,
    ⟨.word, [.operand (.column (.declared 0))]⟩]⟩

def rules : RuleSet :=
  ⟨[rule], columns⟩

theorem isDay_today : IsDay 2024 1 10 := by decide

def context : Context :=
  { today := ⟨2024, 1, 10, isDay_today⟩ }

def listing : Text :=
  "-1 -2 3 x\n".toList

def record : FileRecord :=
  { name := ['x'], isDir := false, isHidden := false, isLink := false, size := 0
    modified := none, extension := none
    values := [.text ['x'], .empty, .number 0, .date ⟨2000, 2, 1, by decide⟩,
      .text "nobody".toList] }

theorem columns_eq : ColumnSet.ofDefinitions definitions = .ok columns := by rfl

set_option maxRecDepth 4000 in
theorem compile_source : RuleSet.compile source columns = .ok rules := by rfl

theorem parse_unkept :
    ColumnSet.ofDefinitions definitions = .ok columns ∧
      RuleSet.compile source columns = .ok rules ∧
      parse rules listing context = .ok [record] ∧
      record.values[1]? ≠ some (.number 7) ∧ record.values[2]? ≠ some (.number 5) ∧
      record.size ≠ 5 :=
  ⟨columns_eq, compile_source, by rfl, by decide, by decide, by decide⟩

def surroundings : Surroundings :=
  Reading.surroundings columns context listing

def row : Row :=
  { cells := [.text ['x'], .number none, .number (some 0), .date ⟨some 3, none, none, false⟩,
      .blank] }

theorem matches_rule :
    applyRule surroundings (Cursor.ofText listing) Languages.all rule =
      .matched ⟨listing.reverse, []⟩ row Languages.all := by rfl

theorem values_of_applyRule_unkept :
    let calls := madeByRule surroundings (Cursor.ofText listing) Languages.all rule
    let values := (row.toRecord columns context.today).values
    (ReadsNegativeLast 1 calls ∧ values[1]? = some .empty) ∧
      (Misses (dateWrites surroundings 3 calls) ∧
        values[3]? = some (.date ⟨2000, 2, 1, by decide⟩)) ∧
      (∀ m ∈ calls, .declared 4 ∉ m.writes) ∧ values[4]? = some (.text "nobody".toList) := by
  intro calls values
  have hshown {i : Nat} {column : Column} (hi : columns.get? i = some column)
      (hkind : column.kind ≠ .name) (htype : column.kind.operandType?.isSome) :=
    values_of_applyRule (e := surroundings) columns_eq compile_source rfl (by simp [rules])
      matches_rule hi hkind htype
  have hlast : ReadsNegativeLast 1 calls := by
    refine ⟨[], _, _, rfl, ⟨rfl, _, rfl, by decide⟩, ?_⟩
    decide
  have hmisses : Misses (dateWrites surroundings 3 calls) := .inr (.inl rfl)
  have hunwritten : ∀ m ∈ calls, .declared 4 ∉ m.writes := by decide
  obtain ⟨-, -, -, hnumber, -⟩ := hshown (i := 1) rfl (by decide) rfl
  obtain ⟨-, -, hdate, -, -⟩ := hshown (i := 3) rfl (by decide) rfl
  obtain ⟨-, howner, -, -, -⟩ := hshown (i := 4) rfl (by decide) rfl
  exact ⟨⟨hlast, (hnumber hlast).1⟩, ⟨hmisses, hdate rfl hmisses⟩, hunwritten, howner hunwritten⟩

end Unkept

end Listing

end ListingRules
