import ListingRules.Listing.Reading
import ListingRules.Proofs.CheckedRules

namespace ListingRules

namespace ColumnSet

theorem operandType?_declared_ne_boolean {s : ColumnSet} {i : Nat} {t : OperandType}
    (h : s.operandType? (.declared i) = some t) : t ≠ .boolean := by
  obtain ⟨column, -, hkind⟩ := Option.bind_eq_some_iff.1 h
  rintro rfl
  cases hk : column.kind <;> simp [hk, ColumnKind.operandType?] at hkind

end ColumnSet

inductive Part where
  | day
  | month
  | year
  | value
  deriving DecidableEq, Repr

namespace Parts

def has (p : Parts) : Part → Bool
  | .day => p.day
  | .month => p.month
  | .year => p.year
  | .value => p.value

theorem has_union (p q : Parts) (part : Part) :
    (p.union q).has part = (p.has part || q.has part) := by
  cases part <;> rfl

theorem has_nothing (part : Part) : ({} : Parts).has part = false := by
  cases part <;> rfl

theorem exists_has_of_complete {p : Parts} {t : OperandType} (h : p.complete t = true) :
    ∃ part, p.has part = true := by
  cases t with
  | date =>
      simp only [complete, Bool.and_eq_true] at h
      exact ⟨.day, h.1.1⟩
  | _ =>
      simp only [complete, Bool.or_eq_true] at h
      rcases h with ((h | h) | h) | h
      · exact ⟨.day, h⟩
      · exact ⟨.month, h⟩
      · exact ⟨.year, h⟩
      · exact ⟨.value, h⟩

theorem complete_of_has {p q : Parts} {t : OperandType}
    (h : ∀ part, p.has part = true → q.has part = true) (hp : p.complete t = true) :
    q.complete t = true := by
  cases t with
  | date =>
      simp only [complete, Bool.and_eq_true] at hp ⊢
      exact ⟨⟨h .day hp.1.1, h .month hp.1.2⟩, h .year hp.2⟩
  | _ =>
      simp only [complete, Bool.or_eq_true] at hp ⊢
      exact hp.imp (.imp (.imp (h .day) (h .month)) (h .year)) (h .value)

end Parts

namespace Written

def Has (w : Written) (i : Nat) (part : Part) : Prop :=
  (w[i]?.getD {}).has part = true

variable {w : Written} {i : Nat} {part : Part}

theorem not_has_nothing {s : ColumnSet} : ¬ (nothing s).Has i part := by
  intro h
  have hempty : (nothing s)[i]?.getD {} = {} := by
    simp only [nothing, List.getElem?_map]
    cases s.columns[i]? <;> rfl
  rw [Has, hempty, Parts.has_nothing] at h
  simp at h

theorem has_add {p : Parts} {j : Nat} (h : (w.add p (.declared j)).Has i part) :
    w.Has i part ∨ i = j ∧ p.has part = true := by
  simp only [Has, add, List.getElem?_modify] at h ⊢
  by_cases hji : j = i
  · cases hw : w[i]? with
    | none => simp [hw, hji, Parts.has_nothing] at h
    | some q =>
        simp only [hw, hji, ↓reduceIte, Option.map_eq_map, Option.map_some, Option.getD_some,
          Parts.has_union, Bool.or_eq_true] at h
        exact h.imp_right fun hp => ⟨hji.symm, hp⟩
  · simp only [hji, ↓reduceIte, Option.map_eq_map, Option.map_id_fun', id_eq] at h
    exact .inl h

theorem has_add_of_has {p : Parts} {c : ColumnRef} (h : w.Has i part) :
    (w.add p c).Has i part := by
  cases c with
  | declared j =>
      simp only [Has, add, List.getElem?_modify] at h ⊢
      cases hw : w[i]? with
      | none => simp [hw, Parts.has_nothing] at h
      | some q =>
          by_cases hji : j = i
          · simpa [hji, Parts.has_union, hw] using .inl (by simpa [hw] using h)
          · simpa [hji, hw] using h
  | isDir => exact h
  | isHidden => exact h
  | isLink => exact h

end Written

namespace Listing

namespace Cell

def type? : Cell → Option OperandType
  | blank => none
  | text _ => some .text
  | number _ => some .number
  | date _ => some .date
  | time _ => some .time

def Fits (t : Option OperandType) (cell : Cell) : Prop :=
  ∀ u, cell.type? = some u → t = some u

def filled : Cell → Parts
  | blank => {}
  | date d => { day := d.day.isSome, month := d.month.isSome, year := d.year.isSome }
  | _ => { value := true }

theorem fits_blank {t : Option OperandType} : Fits t .blank := by
  intro u hu
  simp [type?] at hu

theorem type?_of_has {t : Option OperandType} {cell : Cell} {part : Part} (h : cell.Fits t)
    (hp : cell.filled.has part = true) : cell.type? = t := by
  cases cell with
  | blank => simp [filled, Parts.has_nothing] at hp
  | text x => exact (h .text rfl).symm
  | number x => exact (h .number rfl).symm
  | date x => exact (h .date rfl).symm
  | time x => exact (h .time rfl).symm

theorem filled_eq_value {t : OperandType} {cell : Cell} (h : cell.type? = some t)
    (ht : t ≠ .date) : cell.filled = { value := true } := by
  cases cell with
  | blank => simp [type?] at h
  | date d => exact absurd (Option.some.inj h).symm ht
  | text x => rfl
  | number n => rfl
  | time x => rfl

theorem filled_eq_whole {t : OperandType} {cell : Cell} (h : cell.type? = some t)
    (hc : cell.filled.complete t = true) : cell.filled = Parts.whole t := by
  cases cell with
  | blank => simp [type?] at h
  | date d =>
      obtain rfl := Option.some.inj h
      simp only [filled, Parts.complete, Bool.and_eq_true] at hc
      simp [filled, Parts.whole, hc]
  | text x => cases h; rfl
  | number n => cases h; rfl
  | time x => cases h; rfl

theorem has_dateParts {cell : Cell} {part : Part} (h : cell.Fits (some .date))
    (hp : cell.filled.has part = true) : (Cell.date cell.dateParts).filled.has part = true := by
  have htype := type?_of_has h hp
  cases cell with
  | date d => exact hp
  | _ => simp [type?] at htype

theorem filled_month (d : DateParts) (n : Nat) :
    (date { d with month := some n }).filled =
      (date d).filled.union { month := true } := by
  simp [filled, Parts.union]

theorem filled_day (d : DateParts) (n : Nat) :
    (date { d with day := some n }).filled = (date d).filled.union { day := true } := by
  simp [filled, Parts.union]

theorem filled_year (d : DateParts) (n : Int) (guess : Bool) :
    (date { d with year := some n, yearIsGuess := guess }).filled =
      (date d).filled.union { year := true } := by
  simp [filled, Parts.union]

end Cell

namespace Row

def filled (row : Row) (i : Nat) : Parts :=
  (row.cells[i]?.getD .blank).filled

structure Typed (s : ColumnSet) (row : Row) : Prop where
  length : row.cells.length = s.columns.length
  fits : ∀ i column cell, s.get? i = some column → row.cells[i]? = some cell →
    cell.Fits column.kind.operandType?

structure Keeps (s : ColumnSet) (w : Written) (row : Row) : Prop where
  typed : row.Typed s
  holds : ∀ i part, w.Has i part → (row.filled i).has part = true

variable {s : ColumnSet} {w : Written} {row : Row} {i : Nat} {t : OperandType}

theorem typed_empty : (Row.empty s).Typed s := by
  refine ⟨by simp [Row.empty], fun i column cell hcolumn hcell => ?_⟩
  have hblank : cell = .blank := by
    simp only [Row.empty, List.getElem?_map, Option.map_eq_some_iff] at hcell
    obtain ⟨-, -, rfl⟩ := hcell
    rfl
  exact hblank ▸ Cell.fits_blank

theorem Typed.keeps_nothing (h : row.Typed s) : row.Keeps s (Written.nothing s) :=
  ⟨h, fun _ _ hpart => absurd hpart Written.not_has_nothing⟩

theorem keeps_empty : (Row.empty s).Keeps s (Written.nothing s) :=
  typed_empty.keeps_nothing

theorem filled_empty : (Row.empty s).filled i = {} := by
  simp only [filled, Row.empty, List.getElem?_map]
  cases s.columns[i]? <;> rfl

theorem Keeps.of_add {p : Parts} {c : ColumnRef} (h : row.Keeps s (w.add p c)) :
    row.Keeps s w :=
  ⟨h.typed, fun i part hw => h.holds i part (Written.has_add_of_has hw)⟩

theorem Typed.exists_cell {column : Column} (h : row.Typed s) (hi : s.get? i = some column) :
    ∃ cell, row.cells[i]? = some cell ∧ cell.Fits column.kind.operandType? := by
  obtain ⟨hlt, -⟩ := List.getElem?_eq_some_iff.1 hi
  have hlt : i < row.cells.length := h.length ▸ hlt
  have hcell : row.cells[i]? = some row.cells[i] := List.getElem?_eq_getElem hlt
  exact ⟨_, hcell, h.fits i column _ hi hcell⟩

theorem exists_column (ht : s.operandType? (.declared i) = some t) :
    ∃ column, s.get? i = some column ∧ column.kind.operandType? = some t :=
  Option.bind_eq_some_iff.1 ht

theorem Typed.set {column : Column} {cell : Cell} (h : row.Typed s)
    (hi : s.get? i = some column) (hcell : cell.Fits column.kind.operandType?) :
    (row.set i cell).Typed s := by
  refine ⟨by simpa [Row.set] using h.length, fun j other old hj hold => ?_⟩
  simp only [Row.set, List.getElem?_set] at hold
  split at hold
  · rename_i hij
    subst hij
    rw [hi] at hj
    obtain rfl := Option.some.inj hj
    split at hold
    · obtain rfl := Option.some.inj hold
      exact hcell
    · simp at hold
  · exact h.fits j other old hj hold

theorem filled_set {cell : Cell} (hi : i < row.cells.length) :
    (row.set i cell).filled i = cell.filled := by
  simp [filled, Row.set, hi]

theorem filled_set_of_ne {cell : Cell} {j : Nat} (hij : i ≠ j) :
    (row.set i cell).filled j = row.filled j := by
  simp [filled, Row.set, hij]

end Row

section Values

variable {e : Surroundings} {a : Attempt} {w : Written} {o : Operand} {t : OperandType}

def HasValue (e : Surroundings) (a : Attempt) (o : Operand) : OperandType → Prop
  | .boolean => ∃ b, boolOf? e a o = some b
  | .text => ∃ x, textOf? a o = some x
  | .number => ∃ n, numberOf? a o = some n
  | .date => ∃ d, dateOf? a o = some d
  | .time => ∃ x, timeOf? a o = some x

theorem hasValue_cell {i : Nat} {cell : Cell} (hcell : a.row.cells[i]? = some cell)
    (ht : cell.type? = some t) (hfilled : cell.filled = Parts.whole t) :
    HasValue e a (.column (.declared i)) t := by
  cases cell with
  | blank => simp [Cell.type?] at ht
  | text x =>
      cases ht
      exact ⟨x, by simp [textOf?, Row.text?, hcell]⟩
  | number n =>
      cases ht
      exact ⟨n, by simp [numberOf?, Row.number?, hcell]⟩
  | time x =>
      cases ht
      exact ⟨x, by simp [timeOf?, Row.time?, hcell]⟩
  | date d =>
      cases ht
      simp only [Cell.filled, Parts.whole, Parts.mk.injEq, Option.isSome_iff_exists] at hfilled
      obtain ⟨⟨day, hday⟩, ⟨month, hmonth⟩, ⟨year, hyear⟩, -⟩ := hfilled
      exact ⟨(day, month, year),
        by simp [dateOf?, Row.date?, hcell, DateParts.whole?, hday, hmonth, hyear]⟩

theorem Row.Keeps.whole {s : ColumnSet} {row : Row} {i : Nat} (hk : row.Keeps s w)
    (ht : s.operandType? (.declared i) = some t) (hw : w.readable s (.declared i) = true) :
    ∃ cell, row.cells[i]? = some cell ∧ cell.type? = some t ∧ cell.filled = Parts.whole t := by
  obtain ⟨column, hcolumn, hkind⟩ := Row.exists_column ht
  obtain ⟨cell, hcell, hfits⟩ := hk.typed.exists_cell hcolumn
  have hholds : ∀ part, w.Has i part → cell.filled.has part = true := by
    intro part hpart
    simpa [Row.filled, hcell] using hk.holds i part hpart
  simp only [Written.readable, ht, Option.getD_some] at hw
  obtain ⟨part, hpart⟩ := Parts.exists_has_of_complete hw
  have htype : cell.type? = some t := hkind ▸ Cell.type?_of_has hfits (hholds part hpart)
  exact ⟨cell, hcell, htype, Cell.filled_eq_whole htype (Parts.complete_of_has hholds hw)⟩

theorem hasValue_of_type (hk : a.row.Keeps e.columns w) (ht : o.type? e.columns = some t)
    (hr : ∀ c, o = .column c → w.readable e.columns c = true) : HasValue e a o t := by
  cases o with
  | column c =>
      cases c with
      | declared i =>
          obtain ⟨cell, hcell, htype, hfilled⟩ := hk.whole ht (hr _ rfl)
          exact hasValue_cell hcell htype hfilled
      | isDir => cases ht; exact ⟨_, rfl⟩
      | isHidden => cases ht; exact ⟨_, rfl⟩
      | isLink => cases ht; exact ⟨_, rfl⟩
  | bool b => cases ht; exact ⟨_, rfl⟩
  | text x => cases ht; exact ⟨_, rfl⟩
  | number n => cases ht; exact ⟨_, rfl⟩
  | state v => cases v <;> cases ht <;> exact ⟨_, rfl⟩

theorem hasValue_of_isValue (hk : a.row.Keeps e.columns w)
    (h : (ListingRules.Param.operand o).isValue t = true) : HasValue e a o t := by
  obtain ⟨htype, hno⟩ := ListingRules.Param.isValue_operand (s := e.columns) h
  exact hasValue_of_type hk htype fun c hc => absurd hc (hno c)

theorem hasValue_of_column {c : ColumnRef} (hk : a.row.Keeps e.columns w)
    (hc : e.columns.operandType? c = some t) (hr : w.readable e.columns c = true) :
    HasValue e a (.column c) t := by
  refine hasValue_of_type hk hc fun d hd => ?_
  obtain rfl := Operand.column.inj hd
  exact hr

theorem hasValue_of_reads {eff : Effect} {c : ColumnRef} (hk : a.row.Keeps e.columns w)
    (hreads : ∀ r ∈ eff.reads, w.readable e.columns r.2 = true) (hc : c ∈ eff.reads.map (·.2))
    (ht : e.columns.operandType? c = some t) : HasValue e a (.column c) t := by
  obtain ⟨r, hr, rfl⟩ := List.mem_map.1 hc
  exact hasValue_of_column hk ht (hreads r hr)

theorem exists_compareValues {α : Type} [DecidableEq α] {op : Operator} {l r : Option α}
    (h : op.isTextual = false) (hl : ∃ x, l = some x) (hr : ∃ y, r = some y) :
    ∃ b, (do compareValues op (← l) (← r)) = some b := by
  obtain ⟨x, rfl⟩ := hl
  obtain ⟨y, rfl⟩ := hr
  cases op with
  | equal => exact ⟨_, rfl⟩
  | notEqual => exact ⟨_, rfl⟩
  | _ => simp [Operator.isTextual] at h

theorem exists_eval?_comparison {l r : Operand} {op : Operator} (hk : a.row.Keeps e.columns w)
    (h : checkComparison e.columns l op r w = .ok ()) :
    ∃ b, Param.eval? e a (.comparison l op r) = some b := by
  obtain ⟨t, hl, hr, htext, hlr, hrr⟩ := checkComparison_ok h
  have hlv := hasValue_of_type hk hl hlr
  have hrv := hasValue_of_type hk hr hrr
  have hop : t ≠ .text → op.isTextual = false := by
    intro ht
    simpa using mt htext ht
  simp only [Param.eval?, hl]
  cases t with
  | text =>
      obtain ⟨x, hx⟩ := hlv
      obtain ⟨y, hy⟩ := hrv
      exact ⟨compareTexts op x y, by simp [hx, hy]⟩
  | boolean => exact exists_compareValues (hop (by simp)) hlv hrv
  | number => exact exists_compareValues (hop (by simp)) hlv hrv
  | date => exact exists_compareValues (hop (by simp)) hlv hrv
  | time => exact exists_compareValues (hop (by simp)) hlv hrv

def Provides (e : Surroundings) (a : Attempt) : ListingRules.Param → OperandType → Prop
  | .operand o, t => HasValue e a o t
  | .comparison l op r, t => t = .boolean ∧ ∃ b, Param.eval? e a (.comparison l op r) = some b

theorem provides_of_isValue {call : Call} {p : ListingRules.Param} (hk : a.row.Keeps e.columns w)
    (hcompare : call.ComparesWell e.columns w) (hmem : p ∈ call.params)
    (h : p.isValue t = true) : Provides e a p t := by
  cases p with
  | operand o => exact hasValue_of_isValue hk h
  | comparison l op r =>
      exact ⟨eq_of_beq h, exists_eval?_comparison hk (hcompare l op r hmem)⟩

theorem exists_eval? {p : ListingRules.Param} (h : Provides e a p .boolean) :
    ∃ b, Param.eval? e a p = some b := by
  cases p with
  | operand o => exact h
  | comparison l op r => exact h.2

end Values

end Listing

end ListingRules
