import ListingRules.Proofs.Bytewise.Attempt
import ListingRules.Proofs.ColumnYears
import ListingRules.Proofs.Filling
import ListingRules.Proofs.Passes

namespace ListingRules.Bytewise

open Text (byteCount isLineEnd)
open Cursor (Walk StartsLine)
open Listing (Surroundings FileRecord Context Result)

def resolve (cell : Cell) (today : Date) : Checked (Option Date) := do
  let isFuture := today.month < cell.month ∨ today.month = cell.month ∧ today.day < cell.day
  let year ←
    (if cell.filled.yearCorrection ∧ isFuture then asSigned (cell.year - 1) else .ok cell.year)
  return Date.ofParts? year cell.month cell.day

def extensionOf (name : Text) : Checked (Option Text) := do
  match findLastByte? (· == '.') name with
  | none => return none
  | some i => return some (← sliceFrom name (i + 1))

def shownValue (today : Date) (name : Text) (extension : Option Text) (c : Column) (cell : Cell) :
    Checked Value :=
  match c.kind with
  | .name => .ok (.text name)
  | .extension => .ok (extension.elim .empty .text)
  | .fileType => .ok c.empty
  | .text => .ok (if cell.filled.value then .text cell.text else c.empty)
  | .size => .ok (if cell.filled.value then .number (cell.number.getD 0) else c.empty)
  | .number => .ok (if cell.filled.value then cell.number.elim .empty .number else c.empty)
  | .date | .generalDate => do
      if cell.filled.date then
        return .date ((← resolve cell today).getD Date.earliest)
      else
        return c.empty
  | .time | .generalTime => .ok (if cell.filled.time then .time cell.time else c.empty)

def toRecord (s : ColumnSet) (today : Date) (r : Row) : Checked FileRecord := do
  let name := (r.nameCell s).text
  let extension ← (if r.isDir then .ok none else extensionOf name)
  let values ← (s.columns.zip r.cells).mapM fun (c, cell) => shownValue today name extension c cell
  return .ofValues s r.isDir r.isHidden r.isLink name extension values

section Records

variable {s : ColumnSet} {today : Date} {cell : Listing.Cell}

theorem resolve_eq {d : Listing.DateParts} {date : Option Date}
    (h : (Listing.Cell.date d).YearHeld) (hd : d.resolve? today = some date) :
    resolve (ofCell (.date d)) today = .ok date := by
  obtain ⟨⟨day, month, year⟩, hwhole, hdate⟩ := Option.bind_eq_some_iff.1 hd
  obtain rfl := Option.some.inj hdate
  obtain ⟨hday, hmonth, hyear⟩ := Listing.DateParts.whole?_eq_some_iff.1 hwhole
  obtain ⟨hl, hm⟩ := h year hyear
  have hbefore : asSigned (year - 1) = .ok (year - 1) := within_eq_ok (by omega) (by omega)
  simp only [resolve, ofCell, hday, hmonth, hyear, Option.getD_some, hbefore]
  split <;> rfl

theorem shownDate_eq (hfits : cell.Fits (some .date)) (h : cell.YearHeld) (unread : Value) :
    (if (ofCell cell).filled.date then
        (do return .date ((← resolve (ofCell cell) today).getD Date.earliest))
      else .ok unread : Checked Value) =
      .ok (match cell.dateParts.resolve? today with
        | some d => .date (d.getD Date.earliest)
        | none => unread) := by
  rw [← ofCell_dateParts hfits, date_filled_ofCell _ today]
  cases hd : cell.dateParts.resolve? today with
  | none => rfl
  | some date =>
      rw [Option.isSome_some, if_pos rfl, resolve_eq (d := cell.dateParts) h hd]
      rfl

theorem shownValue_eq {c : Column} (hfits : cell.Fits c.kind.operandType?) (h : cell.YearHeld)
    (name : Text) (extension : Option Text) :
    shownValue today name extension c (ofCell cell) =
      .ok (Listing.shownValue today name extension c cell) := by
  obtain ⟨id, kind, unread⟩ := c
  cases kind with
  | name | extension | fileType => rfl
  | date | generalDate => exact shownDate_eq hfits h unread
  | text | size | number | time | generalTime =>
      rcases Listing.Cell.Fits.cases hfits with rfl | htype
      · rfl
      · cases cell <;> cases htype
        rfl

theorem extensionOf_eq (name : Text) : extensionOf name = .ok (Listing.extensionOf? name) := by
  by_cases h : '.' ∈ name
  · obtain ⟨behind, before, hname, hbehind⟩ := List.eq_append_cons_of_mem (List.mem_reverse.2 h)
    have hpoint (x : Char) (hx : x ∈ behind) : (x == '.') = false :=
      beq_eq_false_iff_ne.2 fun heq => hbehind (heq ▸ hx)
    have hparts : name = before.reverse ++ '.' :: behind.reverse := by
      simpa using congrArg List.reverse hname
    have hfind : findLastByte? (· == '.') name = some (byteCount before.reverse) := by
      rw [hparts]
      exact findLastByte?_append rfl fun x hx => hpoint x (List.mem_reverse.1 hx)
    have hslice : sliceFrom name (byteCount before.reverse + 1) = .ok behind.reverse := by
      refine sliceFrom_eq_ok_iff.2 ⟨before.reverse ++ ['.'], by simp [hparts], ?_⟩
      simp [show ('.' : Char).utf8Size = 1 by decide]
    have htake : name.reverse.takeWhile (· != '.') = behind := by
      rw [hname, List.takeWhile_append_of_pos fun x hx => by simpa using hpoint x hx]
      simp
    have hcontains : List.contains name '.' = true := List.contains_iff_mem.2 h
    simp only [extensionOf, hfind, hslice, ok_bind, Listing.extensionOf?, htake]
    exact congrArg Except.ok (if_pos hcontains).symm
  · have hfind : findLastByte? (· == '.') name = none :=
      findLastByte?_eq_none fun x hx => beq_eq_false_iff_ne.2 fun heq => h (heq ▸ hx)
    have hcontains : ¬List.contains name '.' = true := fun hc => h (List.contains_iff_mem.1 hc)
    simp only [extensionOf, hfind, Listing.extensionOf?]
    exact congrArg Except.ok (if_neg hcontains).symm

theorem mapM_eq_ok {α β : Type} {f : α → Checked β} {g : α → β} {l : List α}
    (h : ∀ x ∈ l, f x = .ok (g x)) : l.mapM f = .ok (l.map g) := by
  induction l with
  | nil => rfl
  | cons x l ih =>
      rw [List.mapM_cons, h x List.mem_cons_self, ok_bind,
        ih fun y hy => h y (List.mem_cons_of_mem x hy)]
      rfl

theorem toRecord_eq {row : Listing.Row} (htyped : row.Typed s) (h : row.YearsHeld) :
    toRecord s today (ofRow row) = .ok (row.toRecord s today) := by
  have hvalues (name : Text) (extension : Option Text) :
      (s.columns.zip (ofRow row).cells).mapM
          (fun (c, cell) => shownValue today name extension c cell) =
        .ok ((s.columns.zip row.cells).map fun (c, cell) =>
          Listing.shownValue today name extension c cell) := by
    rw [ofRow, List.zip_map_right, List.mapM_map]
    refine mapM_eq_ok fun x hx => ?_
    obtain ⟨i, hi⟩ := List.mem_iff_getElem?.1 hx
    obtain ⟨hcolumn, hcell⟩ := List.getElem?_zip_eq_some.1 hi
    exact shownValue_eq (htyped.fits i _ _ hcolumn hcell) (h x.2 (List.mem_of_getElem? hcell)) name
      extension
  simp only [toRecord, text_nameCell_ofRow htyped, hvalues, extensionOf_eq, Listing.Row.toRecord]
  cases hdir : row.isDir <;> simp [ofRow, hdir]

end Records

def applyAll (w : Window) (e : Surroundings) : List Call → Attempt → Checked Outcome
  | [], a => .ok (.continues a)
  | call :: more, a => do
      match ← a.apply w e call with
      | .continues a => applyAll w e more a
      | o => return o

inductive Match where
  | matched (stop : Nat) (row : Row) (languages : Languages)
  | skipsRest (languages : Languages)
  | fails (languages : Languages)
  deriving DecidableEq, Repr

namespace Window

def atLineEnd (w : Window) (i : Nat) : Checked Bool := do
  return (← w.peek i).all isLineEnd

def skipLineEnd (w : Window) (i : Nat) : Checked Nat := do
  let i := (← w.expect '\r' i).getD i
  return (← w.expect '\n' i).getD i

end Window

def applyRule (e : Surroundings) (text : Text) (i : Nat) (languages : Languages) (r : Rule) :
    Checked Match := do
  let w : Window := ⟨text, i⟩
  match ← applyAll w e r.calls ⟨i, Row.empty e.columns, languages⟩ with
  | .continues a =>
      if a.row.hasEmptyName e.columns then
        return .fails a.languages
      else if ← w.atLineEnd a.offset then
        return .matched (← w.skipLineEnd a.offset) a.row a.languages
      else
        return .fails a.languages
  | .skipsRest a =>
      return if a.row.hasEmptyName e.columns then .fails a.languages else .skipsRest a.languages
  | .fails languages => return .fails languages

def applyRules (e : Surroundings) (text : Text) (i : Nat) :
    Languages → List Rule → Checked Match
  | languages, [] => .ok (.fails languages)
  | languages, r :: more => do
      match ← applyRule e text i languages r with
      | .fails languages => applyRules e text i languages more
      | m => return m

def ofMatch : Listing.Match → Match
  | .matched stop row languages => .matched stop.offset (ofRow row) languages
  | .skipsRest languages => .skipsRest languages
  | .fails languages => .fails languages

section Rules

variable {w : Window} {e : Surroundings} {a : Listing.Attempt} {place c : Cursor}
  {calls : List Call} {v u : Written} {rule : Rule} {rules : List Rule}

theorem applyAll_agrees (h : w.Sees a.place) (hc : ListingRules.Checked e.columns calls v u)
    (hk : a.row.Keeps e.columns v) :
    applyAll w e calls (ofAttempt a) = ofOutcome (Listing.applyAll e calls a) := by
  induction hc generalizing a with
  | nil => rfl
  | @cons call more _ _ _ hcompare hcheck _ ih =>
      have hleads := Listing.Attempt.leads_apply e call a
      have hcall := Listing.Attempt.ensures_check hcompare hcheck hk
      simp only [applyAll, Listing.applyAll, check_agrees h hk hcompare hcheck]
      cases ho : a.apply e call with
      | continues b =>
          rw [ho] at hleads hcall
          exact ih (h.walk hleads.1) hcall
      | skipsRest b => rfl
      | fails left => rfl
      | stuck => rfl

theorem atLineEnd_agrees (h : w.Sees c) : w.atLineEnd c.offset = .ok c.atLineEnd := by
  obtain ⟨b, t⟩ := c
  cases t <;> simp [Window.atLineEnd, h.peek, Cursor.atLineEnd]

theorem skipLineEnd_agrees (h : w.Sees c) :
    w.skipLineEnd c.offset = .ok c.skipLineEnd.offset := by
  have hgetD (x : Char) (d : Cursor) : ((d.expect? x).map Cursor.offset).getD d.offset =
      (if d.ahead.head? = some x then d.next else d).offset := by
    rw [Cursor.expect?]
    split <;> rfl
  have hd : w.Sees (if c.ahead.head? = some '\r' then c.next else c) := by
    split
    · exact h.next
    · exact h
  simp only [Window.skipLineEnd, h.expect (x := '\r') (by decide), ok_bind, hgetD,
    hd.expect (x := '\n') (by decide), pure_eq_ok]
  rfl

theorem applyRule_agrees (hline : place.StartsLine) {languages : Languages}
    (hrule : Listing.Rule.IsChecked e.columns rule) :
    applyRule e place.text place.offset languages rule =
      .ok (ofMatch (Listing.applyRule e place languages rule)) := by
  obtain ⟨v, hchecked⟩ := hrule
  have hsees : Window.Sees ⟨place.text, place.offset⟩ place := ⟨place, hline, rfl, .refl⟩
  have hleads := Listing.leads_applyAll e rule.calls
    ⟨place, Listing.Row.empty e.columns, languages⟩
  have htyped := Listing.ensures_applyAll
    (a := ⟨place, Listing.Row.empty e.columns, languages⟩) hchecked Listing.Row.keeps_empty
  have hall := applyAll_agrees (a := ⟨place, Listing.Row.empty e.columns, languages⟩) hsees
    hchecked Listing.Row.keeps_empty
  simp only [ofAttempt, ofRow_empty] at hall
  simp only [applyRule, Listing.applyRule, hall]
  cases ho : Listing.applyAll e rule.calls ⟨place, Listing.Row.empty e.columns, languages⟩ with
  | continues a =>
      rw [ho] at hleads htyped
      have ha := hsees.walk hleads.1
      simp only [ofOutcome, ofAttempt, ok_bind, hasEmptyName_ofRow htyped, atLineEnd_agrees ha,
        skipLineEnd_agrees ha]
      cases a.row.hasEmptyName e.columns with
      | true => rfl
      | false => cases a.place.atLineEnd <;> rfl
  | skipsRest a =>
      rw [ho] at htyped
      simp only [ofOutcome, ofAttempt, ok_bind, hasEmptyName_ofRow htyped]
      cases a.row.hasEmptyName e.columns <;> rfl
  | fails left => rfl
  | stuck =>
      rw [ho] at htyped
      exact htyped.elim

theorem applyRules_agrees (hline : place.StartsLine)
    (hrules : ∀ rule ∈ rules, Listing.Rule.IsChecked e.columns rule) (languages : Languages) :
    applyRules e place.text place.offset languages rules =
      .ok (ofMatch (Listing.applyRules e place languages rules)) := by
  induction rules generalizing languages with
  | nil => rfl
  | cons rule more ih =>
      simp only [applyRules, Listing.applyRules,
        applyRule_agrees hline (hrules rule List.mem_cons_self), ok_bind]
      cases Listing.applyRule e place languages rule with
      | matched stop row left => rfl
      | skipsRest left => rfl
      | fails left => exact ih (fun rule hr => hrules rule (List.mem_cons_of_mem _ hr)) left

theorem toRecord_of_applyRules {stop : Cursor} {row : Listing.Row} {before after : Languages}
    (hrules : ∀ rule ∈ rules, Listing.Rule.IsChecked e.columns rule)
    (h : Listing.applyRules e place before rules = .matched stop row after) :
    (ofRow row).hasName e.columns = (row.text? e.columns.nameIndex).isSome ∧
      toRecord e.columns e.today (ofRow row) = .ok (row.toRecord e.columns e.today) := by
  obtain ⟨rule, hr, left, hmatch⟩ := Listing.applyRule_of_applyRules h (by simp)
  obtain ⟨v, hchecked⟩ := hrules rule hr
  obtain ⟨c, ho⟩ := Listing.applyAll_of_applyRule hmatch
  have htyped := Listing.ensures_applyAll
    (a := ⟨place, Listing.Row.empty e.columns, left⟩) hchecked Listing.Row.keeps_empty
  rw [ho] at htyped
  exact ⟨hasName_ofRow htyped, toRecord_eq htyped (Listing.yearsHeld_of_applyRule hmatch)⟩

end Rules

structure Reading where
  offset : Nat
  line : Nat
  languages : Languages
  finished : Bool
  deriving DecidableEq, Repr

def ofReading (r : Listing.Reading) : Reading :=
  ⟨r.place.offset, r.line, r.languages, r.finished⟩

namespace Reading

def finish (r : Reading) : Reading :=
  { r with finished := true }

def step (e : Surroundings) (rules : List Rule) (text : Text) (r : Reading) :
    Checked (Option Result × Reading) := do
  if r.finished ∨ byteCount text ≤ r.offset then
    return (some .done, r.finish)
  else
    match ← applyRules e text r.offset r.languages rules with
    | .skipsRest languages =>
        return (some .done, { r with offset := byteCount text, languages }.finish)
    | .fails languages =>
        let r := { r with languages }
        if e.incomplete then
          let rest ← sliceFrom text r.offset
          if rest.any isLineEnd then
            return (some (.unread ⟨r.offset, r.line⟩), r.finish)
          else
            return (some .done, { r with offset := byteCount text }.finish)
        else
          return (some (.unread ⟨r.offset, r.line⟩), r.finish)
    | .matched stop row languages =>
        let passed ← slice text r.offset stop
        let r := ⟨stop, r.line + Listing.countLineEnds passed, languages, false⟩
        if row.hasName e.columns then
          return (some (.record (← toRecord e.columns e.today row)), r)
        else
          return (none, r)

def nextFrom (e : Surroundings) (rules : List Rule) (text : Text) :
    Nat → Reading → Checked (Result × Reading)
  | 0, _ => .error .endless
  | n + 1, r => do
      match ← step e rules text r with
      | (some x, r) => return (x, r)
      | (none, r) => nextFrom e rules text n r

def next (e : Surroundings) (rules : List Rule) (text : Text) (r : Reading) :
    Checked (Result × Reading) :=
  nextFrom e rules text (byteCount text + 1) r

section Agreement

variable {e : Surroundings} {rules : List Rule} {text : Text} {r : Listing.Reading}

theorem finished_iff (hr : Listing.Reading.Stands text r) :
    ((ofReading r).finished = true ∨ byteCount text ≤ (ofReading r).offset) ↔
      (r.finished || r.place.ahead.isEmpty) = true := by
  have htext : byteCount text = r.place.offset + byteCount r.place.ahead := by
    simp [← hr.1, Cursor.text, Cursor.offset]
  have hend : byteCount text ≤ r.place.offset ↔ r.place.ahead = [] := by
    rw [htext, ← Text.byteCount_eq_zero_iff]
    omega
  simp [ofReading, hend]

theorem step_agrees (hrules : ∀ rule ∈ rules, Listing.Rule.IsChecked e.columns rule)
    (hr : Listing.Reading.Stands text r) :
    step e rules text (ofReading r) =
      .ok ((Listing.Reading.step e rules r).map id ofReading) := by
  simp only [step, Listing.Reading.step, finished_iff hr]
  by_cases hgo : (r.finished || r.place.ahead.isEmpty) = true
  · rw [if_pos hgo, if_pos hgo]
    rfl
  · rw [if_neg hgo, if_neg hgo]
    simp only [Bool.or_eq_true, List.isEmpty_iff, not_or] at hgo
    have hline := hr.2.resolve_left hgo.2
    obtain ⟨rfl, -⟩ := hr
    have hsees : Window.Sees ⟨r.place.text, r.place.offset⟩ r.place := ⟨r.place, hline, rfl, .refl⟩
    have hend : byteCount r.place.text = r.place.toEnd.offset := by
      simp [Cursor.text, Cursor.offset, Cursor.toEnd, Nat.add_comm]
    simp only [ofReading, applyRules_agrees hline hrules, ok_bind]
    cases hm : Listing.applyRules e r.place r.languages rules with
    | skipsRest left =>
        simp only [ofMatch, hend]
        rfl
    | fails left =>
        simp only [ofMatch, hsees.sliceFrom, ok_bind, hend]
        cases e.incomplete with
        | false => rfl
        | true => cases r.place.ahead.any isLineEnd <;> rfl
    | matched stop row left =>
        obtain ⟨t, -, ht, -⟩ := Listing.spans_of_applyRules hline hgo.2 hm
        have hpassed : Listing.Reading.textUpTo r.place stop = t := by
          simp [Listing.Reading.textUpTo, ht.1]
        obtain ⟨hname, hrecord⟩ := toRecord_of_applyRules hrules hm
        simp only [ofMatch, hsees.slice ht, ok_bind, hpassed, hname, hrecord]
        cases (row.text? e.columns.nameIndex).isSome <;> rfl

theorem stands_step (hr : Listing.Reading.Stands text r) :
    Listing.Reading.Stands text (Listing.Reading.step e rules r).2 := by
  rcases Listing.Reading.step_cases e rules r with ⟨x, -, hend⟩ | ⟨x, -, hmatch⟩
  · exact hend.stands hr
  · exact hmatch.stands hr

theorem nextFrom_agrees (hrules : ∀ rule ∈ rules, Listing.Rule.IsChecked e.columns rule)
    (hr : Listing.Reading.Stands text r) {k n : Nat} (hk : r.place.ahead.length < k)
    (hlen : r.place.ahead.length < n) :
    nextFrom e rules text k (ofReading r) =
      .ok ((Listing.Reading.nextFrom e rules n r).map id ofReading) := by
  induction k generalizing n r with
  | zero => omega
  | succ k ih =>
      obtain _ | n := n
      · omega
      · simp only [nextFrom, Listing.Reading.nextFrom, step_agrees hrules hr, ok_bind]
        rcases hs : Listing.Reading.step e rules r with ⟨x, r'⟩
        cases x with
        | some x => rfl
        | none =>
            -- a line that is passed leaves less ahead, which bounds the rounds of both
            have hmatch := Listing.Reading.matches_of_step_none hs
            have hlt := hmatch.length_lt hr
            exact ih (hmatch.stands hr) (by omega) (by omega)

theorem next_agrees (hrules : ∀ rule ∈ rules, Listing.Rule.IsChecked e.columns rule)
    (hr : Listing.Reading.Stands text r) :
    next e rules text (ofReading r) =
      .ok ((Listing.Reading.next e rules r).map id ofReading) := by
  refine nextFrom_agrees hrules hr ?_ (Nat.lt_succ_self _)
  have hle := Text.length_le_byteCount r.place.ahead
  simp only [← hr.1, Cursor.text, Text.byteCount_append]
  omega

inductive Reached (e : Surroundings) (rules : List Rule) (text : Text) (context : Context) :
    Listing.Reading → Prop
  | start : Reached e rules text context (Listing.Reading.start text context)
  | step {r : Listing.Reading} : Reached e rules text context r →
      Reached e rules text context (Listing.Reading.step e rules r).2

theorem stands_of_reached {context : Context} (h : Reached e rules text context r) :
    Listing.Reading.Stands text r := by
  induction h with
  | start => exact Listing.Reading.stands_start text context
  | step _ ih => exact stands_step ih

theorem cursor_of_applyAll (hline : r.place.StartsLine) (htext : r.place.text = text)
    {languages : Languages} {calls : List Call} {a : Listing.Attempt}
    (h : Listing.applyAll e calls ⟨r.place, Listing.Row.empty e.columns, languages⟩ =
      .continues a) :
    r.place.offset ≤ a.place.offset ∧ a.place.offset ≤ byteCount text ∧
      isBoundary text a.place.offset = true := by
  have hleads := Listing.leads_applyAll e calls ⟨r.place, Listing.Row.empty e.columns, languages⟩
  rw [h] at hleads
  have hsees : Window.Sees ⟨r.place.text, r.place.offset⟩ a.place :=
    ⟨r.place, hline, rfl, hleads.1⟩
  have hparts : text = a.place.behind.reverse ++ a.place.ahead := htext ▸ hsees.text_eq
  refine ⟨hsees.start_le, ?_, isBoundary_iff.2 ⟨_, _, hparts, (Window.offset_eq _).symm⟩⟩
  rw [hparts, Window.offset_eq, Text.byteCount_append]
  exact Nat.le_add_right _ _

end Agreement

/-- Reading on from any place that a compiled rule set has come to, with a cursor that is an offset
and with every cut, move, negative and narrowed number checked, fails no check and reads the same.
Between two calls of a rule, its cursor is between two characters and not before its start. -/
theorem next_never_traps {source : Text} {columns : ColumnSet} {rules : RuleSet}
    (h : RuleSet.compile source columns = .ok rules) {text : Text} {context : Context}
    {r : Listing.Reading}
    (hr : Reached (Listing.Reading.surroundings rules.columns context text) rules.rules text
      context r) :
    let e := Listing.Reading.surroundings rules.columns context text
    next e rules.rules text (ofReading r) =
        .ok ((Listing.Reading.next e rules.rules r).map id ofReading) ∧
      ∀ rule ∈ rules.rules, ∀ calls languages a, calls <+: rule.calls → r.place.ahead ≠ [] →
        Listing.applyAll e calls ⟨r.place, Listing.Row.empty e.columns, languages⟩ = .continues a →
          r.place.offset ≤ a.place.offset ∧ a.place.offset ≤ byteCount text ∧
            isBoundary text a.place.offset = true := by
  intro e
  have hstands := stands_of_reached hr
  refine ⟨next_agrees (fun rule => Listing.Rule.isChecked_of_compile h rfl) hstands, ?_⟩
  intro rule _ calls languages a _ hne ha
  exact cursor_of_applyAll (hstands.2.resolve_left hne) hstands.1 ha

end Reading

namespace Umlauts

def columns : ColumnSet :=
  ⟨[⟨['n', 'a', 'm', 'e'], .name, .empty⟩, ⟨['t', 'o'], .text, .empty⟩,
    ⟨['d'], .date, .empty⟩, ⟨['t'], .time, .empty⟩], 0⟩

def source : Text :=
  ("* month_3(<d>), white_spaces(), day(<d>), white_spaces(), year_or_time(<d>, <t>)," ++
    " white_spaces(), back(1), all(1), unix_link(<is_dir>, <name>, <to>);").toList

def link : Rule :=
  ⟨[⟨.month3, [.operand (.column (.declared 2))]⟩, ⟨.whiteSpaces, []⟩,
    ⟨.day, [.operand (.column (.declared 2))]⟩, ⟨.whiteSpaces, []⟩,
    ⟨.yearOrTime, [.operand (.column (.declared 2)), .operand (.column (.declared 3))]⟩,
    ⟨.whiteSpaces, []⟩, ⟨.back, [.operand (.number 1)]⟩, ⟨.all, [.operand (.number 1)]⟩,
    ⟨.unixLink, [.operand (.column .isDir), .operand (.column (.declared 0)),
      .operand (.column (.declared 1))]⟩]⟩

def rules : RuleSet :=
  ⟨[link], columns⟩

def context : Context :=
  { today := ⟨2024, 2, 1, by decide⟩ }

def listing : Text :=
  "mär 3 12:30 ä.ö -> ü/ß\r\n".toList

def record : FileRecord :=
  { name := ['ä', '.', 'ö'], isDir := false, isHidden := false, isLink := false, size := 0
    modified := some ⟨⟨2023, 3, 3, by decide⟩, ⟨12, 30, 0, 0, by decide⟩⟩
    extension := some ['ö']
    values := [.text ['ä', '.', 'ö'], .text ['ü', '/', 'ß'], .date ⟨2023, 3, 3, by decide⟩,
      .time ⟨12, 30, 0, 0, by decide⟩] }

set_option maxRecDepth 4000 in
theorem compile_source : RuleSet.compile source columns = .ok rules := by rfl

theorem next_listing :
    let e := Listing.Reading.surroundings rules.columns context listing
    RuleSet.compile source columns = .ok rules ∧
      Reading.next e rules.rules listing ⟨0, 1, Languages.all, false⟩ =
        .ok (.record record, ⟨byteCount listing, 2, [.german], false⟩) := by
  intro e
  refine ⟨compile_source, (Reading.next_never_traps compile_source .start).1.trans
    (congrArg Except.ok ?_)⟩
  decide +kernel

end Umlauts

end ListingRules.Bytewise
