import ListingRules.Proofs.Filling
import ListingRules.Proofs.Passes
import ListingRules.Proofs.RecordValues
import ListingRules.Proofs.Targets

namespace ListingRules

namespace Listing

theorem keptNumber?_size {positiveOnly : Bool} {n : Int} {m : Option Int}
    (h : keptNumber? .size positiveOnly n = some m) : ∃ k, m = some k ∧ 0 ≤ k := by
  simp only [keptNumber?, ↓reduceIte] at h
  split at h
  · rename_i hn
    exact ⟨n, (Option.some.inj h).symm, hn⟩
  · split at h
    · exact ⟨0, (Option.some.inj h).symm, Int.le_refl 0⟩
    · simp at h

inductive AssignsLast (e : Surroundings) (i : Nat) : List Call → Attempt → Option Int → Prop
  | here {o : Operand} {more : List Call} {a : Attempt} {n : Option Int} :
      numberOf? a o = some n → (∀ call ∈ more, .declared i ∉ call.targets) →
      AssignsLast e i (⟨.assign, [.operand (.column (.declared i)), .operand o]⟩ :: more) a n
  | later {call : Call} {more : List Call} {a b : Attempt} {n : Option Int} :
      a.apply e call = .continues b → AssignsLast e i more b n → AssignsLast e i (call :: more) a n

section Calls

variable {e : Surroundings} {s : ColumnSet} {a b : Attempt} {call : Call} {eff : Effect}
  {calls : List Call} {i : Nat} {column : Column}

theorem number_of_takeNumber {positiveOnly : Bool} {read : Option (Int × Cursor)}
    (hi : s.get? i = some column) (hkind : column.kind = .size)
    (ho : a.takeNumber s positiveOnly read (.declared i) = .continues b) :
    ∃ k, b.row.cells[i]? = some (.number (some k)) ∧ 0 ≤ k := by
  simp only [Attempt.takeNumber] at ho
  split at ho
  · split at ho
    · simp at ho
    · obtain ⟨old, new, -, hnew, hcell⟩ := Attempt.cell_of_modify hi ho
      obtain ⟨m, hm, rfl⟩ := Option.map_eq_some_iff.1 hnew
      obtain ⟨k, rfl, hk⟩ := keptNumber?_size (hkind ▸ hm)
      exact ⟨k, hcell, hk⟩
  · simp at ho

theorem number_of_assign {o : Operand} (hi : e.columns.get? i = some column)
    (hkind : column.kind = .size)
    (ho : a.assign e (.declared i) (.operand o) = .continues b) :
    ∃ n, b.row.cells[i]? = some (.number n) ∧ numberOf? a o = some n := by
  have htype : e.columns.operandType? (.declared i) = some .number := by
    simp [ColumnSet.operandType?, hi, hkind, ColumnKind.operandType?]
  simp only [Attempt.assign, htype] at ho
  cases hn : numberOf? a o with
  | none => simp [hn] at ho
  | some n =>
      rw [hn, Option.elim_some] at ho
      obtain ⟨old, new, -, hnew, hcell⟩ := Attempt.cell_of_modify hi ho
      obtain rfl := Option.some.inj hnew
      exact ⟨n, hcell, rfl⟩

theorem number_of_targets (h : call.Accepted e.columns eff) (hi : e.columns.get? i = some column)
    (hkind : column.kind = .size) (htarget : .declared i ∈ call.targets)
    (ho : a.apply e call = .continues b) :
    ∃ n, b.row.cells[i]? = some (.number n) ∧
      ((∃ o, call = ⟨.assign, [.operand (.column (.declared i)), .operand o]⟩ ∧
          numberOf? a o = some n) ∨ ∃ k, n = some k ∧ 0 ≤ k) := by
  have htype : e.columns.operandType? (.declared i) = some .number := by
    simp [ColumnSet.operandType?, hi, hkind, ColumnKind.operandType?]
  cases h.takes htarget htype with
  | number hf =>
      rcases hf with rfl | rfl
      · obtain ⟨k, hcell, hk⟩ := number_of_takeNumber hi hkind ho
        exact ⟨some k, hcell, .inr ⟨k, rfl, hk⟩⟩
      · obtain ⟨k, hcell, hk⟩ := number_of_takeNumber hi hkind ho
        exact ⟨some k, hcell, .inr ⟨k, rfl, hk⟩⟩
  | separated o =>
      simp only [Attempt.apply] at ho
      split at ho
      · obtain ⟨k, hcell, hk⟩ := number_of_takeNumber hi hkind ho
        exact ⟨some k, hcell, .inr ⟨k, rfl, hk⟩⟩
      · simp at ho
  | assign o =>
      obtain ⟨n, hcell, hn⟩ := number_of_assign hi hkind ho
      exact ⟨n, hcell, .inl ⟨o, rfl, hn⟩⟩

theorem number_of_assignsLast {n : Option Int} (h : AssignsLast e i calls a n)
    (hi : e.columns.get? i = some column) (hkind : column.kind = .size)
    (ho : applyAll e calls a = .continues b) : b.row.cells[i]? = some (.number n) := by
  induction h with
  | here hn hmore =>
      simp only [applyAll] at ho
      split at ho
      · rename_i c hc
        obtain ⟨m, hcell, hm⟩ := number_of_assign hi hkind hc
        obtain rfl := Option.some.inj (hm.symm.trans hn)
        rw [cell_of_applyAll ho hmore, hcell]
      · rename_i hc
        exact absurd ho (hc b)
  | later hc _ ih =>
      simp only [applyAll, hc] at ho
      exact ih ho

theorem assignsLast_of_negative {w v : Written} (hchecked : Checked e.columns calls w v)
    (hi : e.columns.get? i = some column) (hkind : column.kind = .size) {n : Int} (hn : n < 0)
    (ho : applyAll e calls a = .continues b) (hb : b.row.cells[i]? = some (.number (some n))) :
    AssignsLast e i calls a (some n) ∨
      a.row.cells[i]? = some (.number (some n)) ∧ ∀ call ∈ calls, .declared i ∉ call.targets := by
  induction hchecked generalizing a with
  | nil =>
      obtain rfl := Outcome.continues.inj ho
      exact .inr ⟨hb, by simp⟩
  | @cons call more _ _ _ _ hcheck _ ih =>
      simp only [applyAll] at ho
      split at ho
      · rename_i c hc
        rcases ih ho with hlast | ⟨hcell, hmore⟩
        · exact .inl (.later hc hlast)
        · by_cases htarget : .declared i ∈ call.targets
          · obtain ⟨eff, haccepted, -⟩ := Call.accepted_of_check hcheck
            obtain ⟨m, hm, hsource⟩ := number_of_targets haccepted hi hkind htarget hc
            obtain rfl : m = some n := by simpa [hm] using hcell
            rcases hsource with ⟨o, rfl, hnumber⟩ | ⟨k, hk, hpos⟩
            · exact .inl (.here hnumber hmore)
            · obtain rfl := Option.some.inj hk
              omega
          · have hcall : applyAll e [call] a = .continues c := by simp [applyAll, hc]
            rw [cell_of_applyAll hcall (by simpa using htarget)] at hcell
            exact .inr ⟨hcell, by simpa using ⟨htarget, hmore⟩⟩
      · rename_i hc
        exact absurd ho (hc b)

end Calls

section Records

variable {s : ColumnSet} {i : Nat} {column : Column}

theorem shownValue_size (hkind : column.kind = .size) (hempty : column.empty.Fits column.kind)
    {cell : Cell} (hcell : cell.Fits (some .number)) (today : Date) (name : Text)
    (extension : Option Text) :
    ∃ n, shownValue today name extension column cell = .number n ∧
      (cell = .blank ∧ 0 ≤ n ∨ ∃ m, cell = .number m ∧ n = m.getD 0) := by
  cases cell with
  | blank =>
      cases hv : column.empty with
      | number n =>
          rw [hkind, hv] at hempty
          exact ⟨n, by simp [shownValue, hkind, hv], .inl ⟨rfl, by simpa [Value.Fits] using hempty⟩⟩
      | _ => simp [hkind, hv, Value.Fits] at hempty
  | number m => exact ⟨m.getD 0, by simp [shownValue, hkind], .inr ⟨m, rfl, rfl⟩⟩
  | text x => simpa using hcell .text rfl
  | date d => simpa using hcell .date rfl
  | time x => simpa using hcell .time rfl

theorem Row.size_toRecord (hs : ColumnSet.WellKinded s.columns) (hi : s.get? i = some column)
    (hkind : column.kind = .size) {row : Row} {cell : Cell} (hcell : row.cells[i]? = some cell)
    (hfits : cell.Fits (some .number)) (today : Date) :
    ∃ n, (row.toRecord s today).values[i]? = some (.number n) ∧
      (row.toRecord s today).size = n.toNat ∧
      (cell = .blank ∧ 0 ≤ n ∨ ∃ m, cell = .number m ∧ n = m.getD 0) := by
  have hempty := hs.fits column (List.mem_of_getElem? hi)
  obtain ⟨n, hn, hsource⟩ := shownValue_size hkind hempty hfits today (row.shownName s)
    (row.shownExtension s)
  have hvalue : (row.toRecord s today).values[i]? = some (.number n) := by
    rw [value_toRecord hi hcell, hn]
  refine ⟨n, hvalue, ?_, hsource⟩
  have hsize := valueOfKind?_eq hs hi (by simp [hkind, ColumnKind.isUnique]) hvalue
  rw [hkind] at hsize
  simp only [toRecord, FileRecord.ofValues] at hsize ⊢
  rw [hsize]

theorem size_of_applyRule {e : Surroundings} (hs : ColumnSet.WellKinded e.columns.columns)
    (hi : e.columns.get? i = some column) (hkind : column.kind = .size) {rule : Rule} {v : Written}
    (hchecked : Checked e.columns rule.calls (Written.nothing e.columns) v) {place stop : Cursor}
    {row : Row} {before after : Languages}
    (h : applyRule e place before rule = .matched stop row after) :
    let start : Attempt := ⟨place, Row.empty e.columns, before⟩
    ∃ n, (row.toRecord e.columns e.today).values[i]? = some (.number n) ∧
      (row.toRecord e.columns e.today).size = n.toNat ∧
      (∀ m, AssignsLast e i rule.calls start m → n = m.getD 0) ∧
      (n < 0 → AssignsLast e i rule.calls start (some n)) := by
  intro start
  obtain ⟨c, ho⟩ := applyAll_of_applyRule h
  have hkeeps := keeps_of_succeeds (succeeds_of_applyAll ho) hchecked Row.keeps_empty
  obtain ⟨cell, hcell, hfits⟩ := hkeeps.typed.exists_cell hi
  have htype : column.kind.operandType? = some .number := by simp [hkind, ColumnKind.operandType?]
  obtain ⟨n, hvalue, hsize, hsource⟩ :=
    Row.size_toRecord hs hi hkind hcell (htype ▸ hfits) e.today
  refine ⟨n, hvalue, hsize, fun m hm => ?_, fun hneg => ?_⟩
  · have hassigned := number_of_assignsLast hm hi hkind ho
    obtain rfl := Option.some.inj (hcell.symm.trans hassigned)
    simpa using hsource
  · obtain ⟨rfl, hpos⟩ | ⟨m, rfl, rfl⟩ := hsource
    · omega
    · obtain ⟨k, rfl⟩ : ∃ k, m = some k := by
        cases m with
        | none => simp at hneg
        | some k => exact ⟨k, rfl⟩
      -- a row starts without numbers
      refine (assignsLast_of_negative hchecked hi hkind hneg ho hcell).resolve_right ?_
      rintro ⟨hempty, -⟩
      obtain ⟨_, -, hblank⟩ := List.mem_map.1 (List.mem_of_getElem? hempty)
      cases hblank

end Records

namespace Reading

/-- Each record shows a number in the size column and has it as its size, or zero when the number
is negative. That happens just when the rule that read the record has assigned a negative number
to the column and written nothing to it later. -/
theorem size_of_nextMany {definitions : List ColumnDefinition} {columns : ColumnSet}
    (hcolumns : ColumnSet.ofDefinitions definitions = .ok columns) {source : Text}
    {rules : RuleSet} (h : RuleSet.compile source columns = .ok rules) {i : Nat} {column : Column}
    (hi : columns.get? i = some column) (hkind : column.kind = .size) (text : Text)
    (context : Context) (n : Nat) :
    let e := surroundings rules.columns context text
    ∀ f, .record f ∈ (nextMany e rules.rules n (start text context)).1 →
      ∃ size, f.values[i]? = some (.number size) ∧ f.size = size.toNat ∧
        ∃ rule ∈ rules.rules, ∃ place stop row before after,
          applyRule e place before rule = .matched stop row after ∧
          f = row.toRecord e.columns e.today ∧
          (∀ m, AssignsLast e i rule.calls ⟨place, Row.empty e.columns, before⟩ m →
            size = m.getD 0) ∧
          (size < 0 →
            AssignsLast e i rule.calls ⟨place, Row.empty e.columns, before⟩ (some size)) := by
  intro e f hf
  obtain rfl := RuleSet.columns_of_compile h
  obtain ⟨rule, hrule, place, stop, row, before, after, hmatch, -, rfl⟩ := match_of_record hf
  obtain ⟨v, hchecked⟩ := RuleSet.checked_of_compile h hrule
  obtain ⟨size, hvalue, hsize, hassigned, hnegative⟩ := size_of_applyRule (e := e)
    (ColumnSet.wellKinded_of_definitions hcolumns) hi hkind hchecked hmatch
  exact ⟨size, hvalue, hsize, rule, hrule, place, stop, row, before, after, hmatch, rfl, hassigned,
    hnegative⟩

end Reading

namespace Signed

def definitions : List ColumnDefinition :=
  [⟨"name".toList, .name, none⟩, ⟨"size".toList, .size, none⟩]

def columns : ColumnSet :=
  ⟨[⟨"name".toList, .name, .empty⟩, ⟨"size".toList, .size, .number 0⟩], 0⟩

def source : Text :=
  "* assign(<size>, -5), word(<name>);\n".toList

def rules : RuleSet :=
  ⟨[⟨[⟨.assign, [.operand (.column (.declared 1)), .operand (.number (-5))]⟩,
    ⟨.word, [.operand (.column (.declared 0))]⟩]⟩], columns⟩

def context : Context :=
  { today := ⟨2024, 4, 10, by decide⟩ }

def listing : Text :=
  ['x', '\n']

def record : FileRecord :=
  { name := ['x'], isDir := false, isHidden := false, isLink := false, size := 0
    modified := none, extension := none, values := [.text ['x'], .number (-5)] }

/-- A number that is assigned to the size column is not checked as one that is read from the
listing is, so that the column and the size of the record differ. -/
theorem parse_negativeSize :
    ColumnSet.ofDefinitions definitions = .ok columns ∧
      RuleSet.compile source columns = .ok rules ∧
      parse rules listing context = .ok [record] ∧
      record.values[1]? = some (.number (-5)) ∧ record.size = 0 :=
  ⟨by rfl, by rfl, by rfl, rfl, rfl⟩

theorem size_of_nextMany_negative :
    let e := Reading.surroundings rules.columns context listing
    .record record ∈ (Reading.nextMany e rules.rules 1 (Reading.start listing context)).1 ∧
      ∃ rule ∈ rules.rules, ∃ place before,
        AssignsLast e 1 rule.calls ⟨place, Row.empty e.columns, before⟩ (some (-5)) := by
  intro e
  have hrecord :
      (Reading.nextMany e rules.rules 1 (Reading.start listing context)).1 = [.record record] := by
    rfl
  have hmem : .record record ∈
      (Reading.nextMany e rules.rules 1 (Reading.start listing context)).1 := by
    simp [hrecord]
  have hcolumns : ColumnSet.ofDefinitions definitions = .ok columns := by rfl
  have hcompile : RuleSet.compile source columns = .ok rules := by rfl
  obtain ⟨size, hvalue, -, rule, hrule, place, _, _, before, _, -, -, -, hnegative⟩ :=
    Reading.size_of_nextMany hcolumns hcompile (i := 1) rfl rfl listing context 1 record hmem
  obtain rfl : -5 = size := by simpa [record] using hvalue
  exact ⟨hmem, rule, hrule, place, before, hnegative (by decide)⟩

end Signed

end Listing

end ListingRules
