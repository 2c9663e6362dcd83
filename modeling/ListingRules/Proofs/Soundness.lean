import Mathlib.Data.List.Forall2
import ListingRules.Proofs.Filling

namespace ListingRules

namespace Param

def type? (s : ColumnSet) : Param → Option OperandType
  | operand o => o.type? s
  | comparison _ _ _ => some .boolean

theorem type?_of_isValue {s : ColumnSet} {t : OperandType} {p : Param} (h : p.isValue t = true) :
    p.type? s = some t := by
  cases p with
  | operand o => exact (isValue_operand h).1
  | comparison l op r => exact congrArg some (eq_of_beq h).symm

end Param

inductive Use where
  | value (t : OperandType)
  | target (t : OperandType)
  | change (t : OperandType)
  deriving DecidableEq, Repr

namespace Use

def type : Use → OperandType
  | value t => t
  | target t => t
  | change t => t

def reads : Use → Bool
  | target _ => false
  | _ => true

def writes : Use → Bool
  | value _ => false
  | _ => true

def Allowed (s : ColumnSet) (eff : Effect) (p : Param) : Use → Prop
  | value t => p.isValue t = true ∨
      ∃ c ∈ eff.reads.map (·.2), p = .operand (.column c) ∧ s.operandType? c = some t
  | target t => ∃ c, p = .operand (.column c) ∧ s.operandType? c = some t
  | change t => ∃ c ∈ eff.reads.map (·.2), p = .operand (.column c) ∧ s.operandType? c = some t

end Use

namespace Call

def uses (s : ColumnSet) (call : Call) : List Use :=
  match call.function, call.params with
  | .whiteSpaces, [_] | .back, [_] | .all, [_] => [.value .number]
  | .restOfLine, [_] | .word, [_] | .unixDevice, [_] => [.target .text]
  | .number, [_] | .positiveNumber, [_] => [.target .number]
  | .numberWithSeparators, [_, _] => [.target .number, .value .text]
  | .month3, [_] | .monthTxt, [_] | .month, [_] | .day, [_] | .year, [_] => [.target .date]
  | .month3, [_, _] | .monthTxt, [_, _] => [.target .date, .value .text]
  | .time, [_] => [.target .time]
  | .yearOrTime, [_, _] => [.target .date, .target .time]
  | .all, [_, _] => [.target .text, .value .number]
  | .allTo, [_] => [.value .text]
  | .allTo, [_, _] | .allUpTo, [_, _] => [.target .text, .value .text]
  | .unixLink, [_, _, _] => [.target .boolean, .target .text, .target .text]
  | .require, [_] => [.value .boolean]
  | .assign, [c, _] =>
      match c.type? s with
      | some t => [.target t, .value t]
      | none => []
  | .cutWhiteSpacesEnd, [_] | .cutWhiteSpacesStart, [_] | .cutWhiteSpaces, [_] => [.change .text]
  | .addStringToColumn, [_, _] => [.change .text, .value .text]
  | .cutEndOfString, [_, _] => [.change .text, .value .number]
  | _, _ => []

variable {s : ColumnSet} {call : Call} {eff : Effect}

theorem Accepted.uses (h : call.Accepted s eff) :
    List.Forall₂ (fun p u => Use.Allowed s eff p u) call.params (call.uses s) := by
  cases h with
  | bare hf => rcases hf with rfl | rfl | rfl | rfl | rfl | rfl <;> exact .nil
  | counted n hf => rcases hf with rfl | rfl | rfl <;> exact .cons (.inl rfl) .nil
  | token hf hc => rcases hf with rfl | rfl | rfl <;> exact .cons ⟨_, rfl, hc⟩ .nil
  | number hf hc => rcases hf with rfl | rfl <;> exact .cons ⟨_, rfl, hc⟩ .nil
  | separated hc ho => exact .cons ⟨_, rfl, hc⟩ (.cons (.inl ho) .nil)
  | month hf hc => rcases hf with rfl | rfl | rfl <;> exact .cons ⟨_, rfl, hc⟩ .nil
  | listedMonth names hf hc =>
      rcases hf with rfl | rfl <;> exact .cons ⟨_, rfl, hc⟩ (.cons (.inl rfl) .nil)
  | day hc => exact .cons ⟨_, rfl, hc⟩ .nil
  | year hc => exact .cons ⟨_, rfl, hc⟩ .nil
  | time hc => exact .cons ⟨_, rfl, hc⟩ .nil
  | yearOrTime hc hd => exact .cons ⟨_, rfl, hc⟩ (.cons ⟨_, rfl, hd⟩ .nil)
  | chars n hc => exact .cons ⟨_, rfl, hc⟩ (.cons (.inl rfl) .nil)
  | passTo ho => exact .cons (.inl ho) .nil
  | takeTo hf hc ho =>
      rcases hf with rfl | rfl <;> exact .cons ⟨_, rfl, hc⟩ (.cons (.inl ho) .nil)
  | link hn hl => exact .cons ⟨_, rfl, rfl⟩ (.cons ⟨_, rfl, hn⟩ (.cons ⟨_, rfl, hl⟩ .nil))
  | require hp => exact .cons (.inl hp) .nil
  | requireFlag hc => exact .cons (.inr ⟨_, by simp, rfl, hc⟩) .nil
  | assignColumn hc hd =>
      simp only [Call.uses, Param.type?, Operand.type?, hc]
      exact .cons ⟨_, rfl, hc⟩ (.cons (.inr ⟨_, by simp, rfl, hd⟩) .nil)
  | assignValue hc hp =>
      simp only [Call.uses, Param.type?, Operand.type?, hc]
      exact .cons ⟨_, rfl, hc⟩ (.cons (.inl hp) .nil)
  | cut hf hc => rcases hf with rfl | rfl | rfl <;> exact .cons ⟨_, by simp, rfl, hc⟩ .nil
  | addColumn hc hd =>
      exact .cons ⟨_, by simp, rfl, hc⟩ (.cons (.inr ⟨_, by simp, rfl, hd⟩) .nil)
  | addValue hc ho => exact .cons ⟨_, by simp, rfl, hc⟩ (.cons (.inl ho) .nil)
  | cutEnd n hc => exact .cons ⟨_, by simp, rfl, hc⟩ (.cons (.inl rfl) .nil)

end Call

namespace Listing

def HasPlace (s : ColumnSet) (row : Row) (t : OperandType) : ColumnRef → Prop
  | .declared i => ∃ column cell, s.get? i = some column ∧ column.kind.operandType? = some t ∧
      row.cells[i]? = some cell ∧ cell.Fits (some t)
  | _ => t = .boolean

structure UseSuits (e : Surroundings) (a : Attempt) (p : ListingRules.Param) (u : Use) :
    Prop where
  type : p.type? e.columns = some u.type
  value : u.reads = true → Provides e a p u.type
  place : u.writes = true →
    ∃ c, p = .operand (.column c) ∧ HasPlace e.columns a.row u.type c

def ComparisonSuits (e : Surroundings) (a : Attempt) (l : Operand) (op : Operator) (r : Operand) :
    Prop :=
  ∃ t, l.type? e.columns = some t ∧ r.type? e.columns = some t ∧
    HasValue e a l t ∧ HasValue e a r t ∧ (t ≠ .text → op = .equal ∨ op = .notEqual)

structure Suits (e : Surroundings) (a : Attempt) (call : Call) : Prop where
  not_stuck : a.apply e call ≠ .stuck
  uses : List.Forall₂ (fun p u => UseSuits e a p u) call.params (call.uses e.columns)
  comparisons : ∀ l op r, .comparison l op r ∈ call.params → ComparisonSuits e a l op r
  columns : ∀ p ∈ call.params, ∀ i, .column (.declared i) ∈ p.operands →
    (e.columns.get? i).isSome ∧ i < a.row.cells.length

section Calls

variable {e : Surroundings} {a : Attempt} {w : Written} {call : Call} {eff : Effect}

theorem hasPlace_of_typed {s : ColumnSet} {row : Row} {c : ColumnRef} {t : OperandType}
    (hrow : row.Typed s) (hc : s.operandType? c = some t) : HasPlace s row t c := by
  cases c with
  | declared i =>
      obtain ⟨column, hcolumn, hkind⟩ := Row.exists_column hc
      obtain ⟨cell, hcell, hfits⟩ := hrow.exists_cell hcolumn
      exact ⟨column, cell, hcolumn, hkind, hcell, hkind ▸ hfits⟩
  | isDir => exact (Option.some.inj hc).symm
  | isHidden => exact (Option.some.inj hc).symm
  | isLink => exact (Option.some.inj hc).symm

theorem useSuits {p : ListingRules.Param} {u : Use} (hk : a.row.Keeps e.columns w)
    (hcompare : call.ComparesWell e.columns w)
    (hreads : ∀ r ∈ eff.reads, w.readable e.columns r.2 = true) (hp : p ∈ call.params)
    (hu : Use.Allowed e.columns eff p u) : UseSuits e a p u := by
  have hcolumn {c : ColumnRef} {t : OperandType} (hmem : c ∈ eff.reads.map (·.2))
      (hc : e.columns.operandType? c = some t) : HasValue e a (.column c) t :=
    hasValue_of_reads hk hreads hmem hc
  cases u with
  | value t =>
      rcases hu with hv | ⟨c, hmem, rfl, hc⟩
      · exact ⟨Param.type?_of_isValue hv, fun _ => provides_of_isValue hk hcompare hp hv, by
          simp [Use.writes]⟩
      · exact ⟨hc, fun _ => hcolumn hmem hc, by simp [Use.writes]⟩
  | target t =>
      obtain ⟨c, rfl, hc⟩ := hu
      exact ⟨hc, by simp [Use.reads], fun _ => ⟨c, rfl, hasPlace_of_typed hk.typed hc⟩⟩
  | change t =>
      obtain ⟨c, hmem, rfl, hc⟩ := hu
      exact ⟨hc, fun _ => hcolumn hmem hc, fun _ => ⟨c, rfl, hasPlace_of_typed hk.typed hc⟩⟩

theorem comparisonSuits {l r : Operand} {op : Operator} (hk : a.row.Keeps e.columns w)
    (h : checkComparison e.columns l op r w = .ok ()) : ComparisonSuits e a l op r := by
  obtain ⟨t, hl, hr, htext, hlr, hrr⟩ := checkComparison_ok h
  refine ⟨t, hl, hr, hasValue_of_type hk hl hlr, hasValue_of_type hk hr hrr, fun ht => ?_⟩
  have hop : ¬ op.isTextual = true := mt htext ht
  cases op with
  | equal => exact .inl rfl
  | notEqual => exact .inr rfl
  | _ => exact absurd rfl hop

theorem exists_use {R : ListingRules.Param → Use → Prop} {ps : List ListingRules.Param}
    {us : List Use} {p : ListingRules.Param} (h : List.Forall₂ R ps us) (hp : p ∈ ps) :
    ∃ u ∈ us, R p u := by
  induction h with
  | nil => simp at hp
  | cons hr _ ih =>
      rcases List.mem_cons.1 hp with rfl | hp
      · exact ⟨_, List.mem_cons_self, hr⟩
      · obtain ⟨u, hu, hr⟩ := ih hp
        exact ⟨u, List.mem_cons_of_mem _ hu, hr⟩

theorem isSome_column {i : Nat} {t : OperandType} (hrow : a.row.Typed e.columns)
    (h : Operand.type? e.columns (.column (.declared i)) = some t) :
    (e.columns.get? i).isSome ∧ i < a.row.cells.length := by
  obtain ⟨column, hcolumn, -⟩ := Row.exists_column h
  obtain ⟨hlt, -⟩ := List.getElem?_eq_some_iff.1 hcolumn
  exact ⟨by simp [hcolumn], hrow.length ▸ hlt⟩

theorem suits_of_check {v : Written} (hcompare : call.ComparesWell e.columns w)
    (hcheck : call.check e.columns w = .ok v) (hk : a.row.Keeps e.columns w) :
    Suits e a call := by
  obtain ⟨eff, haccepted, hreads, rfl⟩ := Call.accepted_of_check hcheck
  have huses : List.Forall₂ (fun p u => UseSuits e a p u) call.params (call.uses e.columns) := by
    have hallowed := (List.forall₂_and_left _ _).2 ⟨fun p hp => hp, haccepted.uses⟩
    exact hallowed.imp fun p u h => useSuits hk hcompare hreads h.1 h.2
  have hcomparisons : ∀ l op r, .comparison l op r ∈ call.params → ComparisonSuits e a l op r :=
    fun l op r hp => comparisonSuits hk (hcompare l op r hp)
  refine ⟨?_, huses, hcomparisons, fun p hp i hi => ?_⟩
  · intro hstuck
    have hcall := Attempt.ensures_apply haccepted hk hcompare hreads
    rw [hstuck] at hcall
    exact hcall
  · cases p with
    | operand o =>
        obtain rfl := List.mem_singleton.1 hi
        obtain ⟨u, -, hu⟩ := exists_use huses hp
        exact isSome_column hk.typed hu.type
    | comparison l op r =>
        obtain ⟨t, hl, hr, -⟩ := hcomparisons l op r hp
        simp only [Param.operands, List.mem_cons, List.not_mem_nil, or_false] at hi
        rcases hi with rfl | rfl
        · exact isSome_column hk.typed hl
        · exact isSome_column hk.typed hr

end Calls

/-- Each call of a compiled rule meets all that it needs in any attempt that comes to it. -/
theorem suits_of_compile {source : Text} {columns : ColumnSet} {rules : RuleSet}
    (h : RuleSet.compile source columns = .ok rules) {rule : Rule} (hr : rule ∈ rules.rules)
    {e : Surroundings} (he : e.columns = rules.columns) {place : Cursor} {languages : Languages}
    {done more : List Call} {call : Call} (hcalls : rule.calls = done ++ call :: more)
    {a : Attempt}
    (ha : applyAll e done ⟨place, Row.empty e.columns, languages⟩ = .continues a) :
    Suits e a call ∧ a.row.Typed e.columns := by
  obtain ⟨v, hchecked⟩ := RuleSet.checked_of_compile h hr
  rw [RuleSet.columns_of_compile h] at he
  rw [hcalls, ← he] at hchecked
  obtain ⟨w, hdone, hmore⟩ := hchecked.split
  have hk : a.row.Keeps e.columns w :=
    keeps_of_succeeds (succeeds_of_applyAll ha) hdone Row.keeps_empty
  cases hmore with
  | cons hcompare hcheck _ => exact ⟨suits_of_check hcompare hcheck hk, hk.typed⟩

namespace Counted

def columns : ColumnSet :=
  ⟨[⟨['n', 'a', 'm', 'e'], .name, .empty⟩, ⟨['n'], .number, .empty⟩], 0⟩

def source : Text :=
  "* number(<n>), if(<n> == 3);".toList

def count : Call :=
  ⟨.number, [.operand (.column (.declared 1))]⟩

def three : Call :=
  ⟨.require, [.comparison (.column (.declared 1)) .equal (.number 3)]⟩

def rules : RuleSet :=
  ⟨[⟨[count, three]⟩], columns⟩

theorem compile_source : RuleSet.compile source columns = .ok rules := by rfl

theorem isDay_today : IsDay 2024 1 10 := by decide

def surroundings : Surroundings :=
  Reading.surroundings columns { today := ⟨2024, 1, 10, isDay_today⟩ } ['3']

def start : Attempt :=
  ⟨Cursor.ofText ['3'], Row.empty columns, Languages.all⟩

def counted : Attempt :=
  ⟨⟨['3'], []⟩, { cells := [.blank, .number (some 3)] }, Languages.all⟩

theorem suits_three :
    applyAll surroundings [count] start = .continues counted ∧
      Suits surroundings counted three ∧ counted.row.Typed columns := by
  have hcount : applyAll surroundings [count] start = .continues counted := by rfl
  have hcalls : (⟨[count, three]⟩ : Rule).calls = [count] ++ three :: [] := rfl
  exact ⟨hcount, suits_of_compile compile_source (List.mem_singleton.2 rfl) rfl hcalls hcount⟩

end Counted

end Listing

end ListingRules
