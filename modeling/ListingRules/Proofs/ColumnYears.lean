import ListingRules.Proofs.CellWrites

namespace ListingRules

namespace Listing

def Cell.YearHeld (cell : Cell) : Prop :=
  ∀ y ∈ cell.dateParts.year, -262143 ≤ y ∧ y ≤ 262142

def Row.YearsHeld (r : Row) : Prop :=
  ∀ cell ∈ r.cells, cell.YearHeld

theorem Cell.yearHeld_of_none {cell : Cell} (h : cell.dateParts.year = none) : cell.YearHeld := by
  intro y hy
  simp [h] at hy

theorem Row.yearsHeld_empty {s : ColumnSet} : (Row.empty s).YearsHeld := by
  intro cell hcell
  obtain ⟨_, -, rfl⟩ := List.mem_map.1 hcell
  exact Cell.yearHeld_of_none rfl

theorem Row.year_of_date? {r : Row} {i day month : Nat} {year : Int} (hr : r.YearsHeld)
    (h : r.date? i = some (day, month, year)) : -262143 ≤ year ∧ year ≤ 262142 := by
  obtain ⟨d, hd, hwhole⟩ := Row.date?_eq_some_iff.1 h
  exact hr (.date d) (List.mem_of_getElem? hd) year (DateParts.whole?_eq_some_iff.1 hwhole).2.2

theorem year_of_dateOf? {a : Attempt} {o : Operand} {day month : Nat} {year : Int}
    (hr : a.row.YearsHeld) (h : dateOf? a o = some (day, month, year)) :
    -262143 ≤ year ∧ year ≤ 262142 := by
  simp only [dateOf?] at h
  split at h
  · exact Row.year_of_date? hr h
  · simp at h

theorem Write.yearHeld_cell? {e : Surroundings} {a : Attempt} {w : Write} {k : ColumnKind}
    {old new : Cell} (ha : a.row.YearsHeld) (hs : w.HasSource e a) (hold : old.YearHeld)
    (h : w.cell? k old = some new) : new.YearHeld := by
  cases w with
  | text t =>
      obtain rfl := Option.some.inj h
      exact Cell.yearHeld_of_none rfl
  | read positiveOnly n =>
      obtain ⟨m, -, rfl⟩ := Option.map_eq_some_iff.1 h
      exact Cell.yearHeld_of_none rfl
  | number n =>
      obtain rfl := Option.some.inj h
      exact Cell.yearHeld_of_none rfl
  | dayPart n =>
      obtain rfl := Option.some.inj h
      exact hold
  | monthPart n =>
      obtain rfl := Option.some.inj h
      exact hold
  | yearPart n isGuess =>
      obtain rfl := Option.some.inj h
      intro y hy
      obtain rfl := Option.some.inj hy
      obtain ⟨htoday, htoday', -⟩ := e.today.isDay
      rcases hs with hs | rfl
      · omega
      · exact ⟨htoday, htoday'⟩
  | wholeDate day month year =>
      obtain rfl := Option.some.inj h
      obtain ⟨o, ho⟩ := hs
      intro y hy
      obtain rfl := Option.some.inj hy
      exact year_of_dateOf? ha ho
  | time t =>
      obtain rfl := Option.some.inj h
      exact Cell.yearHeld_of_none rfl

theorem yearsHeld_of_applyRule {e : Surroundings} {place stop : Cursor} {rule : Rule} {row : Row}
    {before after : Languages} (h : applyRule e place before rule = .matched stop row after) :
    row.YearsHeld := by
  obtain ⟨c, hcalls⟩ := applyAll_of_applyRule h
  have hleaves : (applyAll e rule.calls ⟨place, Row.empty e.columns, before⟩).Leaves
      fun cells => ∀ cell ∈ cells, cell.YearHeld := by
    refine leaves_applyAll Row.yearsHeld_empty fun call _ c _ b w hb hs => ?_
    intro i column old new cells _ _ hold hnew hcells cell hcell
    rcases List.mem_or_eq_of_mem_set hcell with hcell | rfl
    · exact hcells cell hcell
    · exact w.yearHeld_cell? hb hs (hcells old (List.mem_of_getElem? hold)) hnew
  rw [hcalls] at hleaves
  exact hleaves

end Listing

end ListingRules
