import Mathlib.Data.Option.Basic
import ListingRules.Listing.Reading

namespace ListingRules

namespace Cursor

theorem year_le_of_yearOrTime? {c d : Cursor} {y : Nat}
    (h : c.yearOrTime? = some (.year y, d)) : y ≤ 9999 := by
  simp only [yearOrTime?, Option.bind_eq_bind, Option.bind_eq_some_iff, Prod.exists] at h
  obtain ⟨first, c₁, -, h⟩ := h
  split at h
  · simp only [Option.bind_eq_some_iff, Option.pure_def, Option.some.injEq, Prod.mk.injEq,
      reduceCtorEq, false_and, and_false, exists_false] at h
  · by_cases hf : 1601 ≤ first ∧ first < 10000 ∧ (!c₁.nextIsAlphabetic) = true
    · simp only [guard, if_pos hf, Option.pure_def, Option.bind_some, Option.some.injEq,
        Prod.mk.injEq, YearOrTime.year.injEq] at h
      obtain ⟨rfl, -⟩ := h
      split <;> omega
    · obtain ⟨_, hg, -⟩ := Option.bind_eq_some_iff.1 h
      rw [guard, if_neg hf] at hg
      cases hg

end Cursor

namespace Call

def targets (call : Call) : List ColumnRef :=
  match call.function, call.params with
  | .unixLink, [_, .operand (.column name), .operand (.column link)] => [name, link]
  | .yearOrTime, [.operand (.column date), .operand (.column time)] => [date, time]
  | .require, _ => []
  | .allTo, [_] => []
  | _, .operand (.column c) :: _ => [c]
  | _, _ => []

end Call

namespace Listing

inductive Write where
  | text (t : Text)
  | read (positiveOnly : Bool) (n : Int)
  | number (n : Option Int)
  | dayPart (n : Nat)
  | monthPart (n : Nat)
  | yearPart (n : Int) (isGuess : Bool)
  | wholeDate (day month : Nat) (year : Int)
  | time (t : Time)

namespace Write

def cell? (w : Write) (k : ColumnKind) (old : Cell) : Option Cell :=
  let d := old.dateParts
  match w with
  | text t => some (.text (keptText k t))
  | read positiveOnly n => (keptNumber? k positiveOnly n).map .number
  | number n => some (.number n)
  | dayPart n => some (.date { d with day := some n })
  | monthPart n => some (.date { d with month := some n })
  | yearPart n isGuess =>
      some (.date { d with year := some n, yearIsGuess := isGuess || d.yearIsGuess })
  | wholeDate day month year => some (.date { d with day, month, year })
  | time t => some (.time t)

def HasSource (e : Surroundings) (a : Attempt) : Write → Prop
  | yearPart n _ => 0 ≤ n ∧ n ≤ 9999 ∨ n = e.today.year
  | wholeDate day month year => ∃ o, dateOf? a o = some (day, month, year)
  | _ => True

def Keeps (s : ColumnSet) (P : List Cell → Prop) (c : ColumnRef) (w : Write) : Prop :=
  ∀ i column old new cells, c = .declared i → s.get? i = some column → cells[i]? = some old →
    w.cell? column.kind old = some new → P cells → P (cells.set i new)

end Write

def Outcome.Leaves (P : List Cell → Prop) : Outcome → Prop
  | continues a => P a.row.cells
  | skipsRest a => P a.row.cells
  | fails _ => True
  | stuck => True

theorem Outcome.Leaves.andThen {P : List Cell → Prop} {o : Outcome} {f : Attempt → Outcome}
    (ho : o.Leaves P) (hf : ∀ b : Attempt, P b.row.cells → (f b).Leaves P) :
    (o.andThen f).Leaves P := by
  cases o with
  | continues b => exact hf b ho
  | skipsRest b => exact ho
  | fails left => exact trivial
  | stuck => exact trivial

namespace Attempt

variable {e : Surroundings} {s : ColumnSet} {a : Attempt} {P : List Cell → Prop} {c : ColumnRef}
  {target : Option ColumnRef}

theorem leaves_modify {w : Write} (ha : P a.row.cells) (hw : w.Keeps s P c) :
    (a.modify s w.cell? c).Leaves P := by
  simp only [modify]
  split
  · split
    · rename_i i _ _ column old hcolumn hold
      split
      · rename_i new hnew
        exact hw i column old new a.row.cells rfl hcolumn hold hnew ha
      · exact trivial
    · exact trivial
  · exact trivial

theorem exists_of_modify {f : ColumnKind → Cell → Option Cell} {b : Attempt}
    (h : a.modify s f c = .continues b) :
    ∃ i column old new, c = .declared i ∧ s.get? i = some column ∧ a.row.cells[i]? = some old ∧
      f column.kind old = some new ∧ b = { a with row := a.row.set i new } := by
  simp only [modify] at h
  split at h
  · split at h
    · rename_i i _ _ column old hcolumn hold
      split at h
      · rename_i new hnew
        exact ⟨i, column, old, new, rfl, hcolumn, hold, hnew, (Outcome.continues.inj h).symm⟩
      · simp at h
    · simp at h
  · simp at h

theorem cell_of_modify {f : ColumnKind → Cell → Option Cell} {i : Nat} {column : Column}
    {b : Attempt} (hi : s.get? i = some column)
    (h : a.modify s f (.declared i) = .continues b) :
    ∃ old new, a.row.cells[i]? = some old ∧ f column.kind old = some new ∧
      b.row.cells[i]? = some new := by
  obtain ⟨j, other, old, new, hij, hj, hold, hnew, rfl⟩ := exists_of_modify h
  obtain rfl := ColumnRef.declared.inj hij
  obtain rfl := Option.some.inj (hi.symm.trans hj)
  obtain ⟨hlt, -⟩ := List.getElem?_eq_some_iff.1 hold
  exact ⟨old, new, hold, hnew, by simp [Row.set, hlt]⟩

theorem leaves_moveTo {place : Option Cursor} (ha : P a.row.cells) :
    (a.moveTo place).Leaves P := by
  cases place with
  | none => exact trivial
  | some d => exact ha

theorem leaves_store {t : Text} (ha : P a.row.cells)
    (hw : ∀ c ∈ target, (Write.text t).Keeps s P c) : (a.store s t target).Leaves P := by
  cases target with
  | none => exact ha
  | some c => exact leaves_modify (w := .text t) ha (hw c rfl)

theorem leaves_elim {α : Type} {x : Option α} {f : α → Outcome}
    (hf : ∀ y, x = some y → (f y).Leaves P) : (x.elim .stuck f).Leaves P := by
  cases x with
  | none => exact trivial
  | some y => exact hf y rfl

theorem leaves_takeToken {p : Char → Bool} (ha : P a.row.cells)
    (hw : ∀ c ∈ target, ∀ t, (Write.text t).Keeps s P c) : (a.takeToken s p target).Leaves P := by
  simp only [takeToken]
  split
  · exact trivial
  · exact leaves_store ha fun c hc => hw c hc _

theorem leaves_takeChars {n : Int} (ha : P a.row.cells)
    (hw : ∀ c ∈ target, ∀ t, (Write.text t).Keeps s P c) : (a.takeChars s n target).Leaves P := by
  simp only [takeChars]
  split
  · exact trivial
  · exact (leaves_moveTo ha).andThen fun b hb => leaves_store hb fun c hc => hw c hc _

theorem leaves_takeTo {inclusive : Bool} {wanted : Text} (ha : P a.row.cells)
    (hw : ∀ c ∈ target, ∀ t, (Write.text t).Keeps s P c) :
    (a.takeTo s inclusive wanted target).Leaves P := by
  simp only [takeTo]
  split
  · exact trivial
  · exact leaves_store ha fun c hc => hw c hc _

theorem leaves_takeNumber {positiveOnly : Bool} {read : Option (Int × Cursor)}
    (ha : P a.row.cells) (hw : ∀ n, (Write.read positiveOnly n).Keeps s P c) :
    (a.takeNumber s positiveOnly read c).Leaves P := by
  simp only [takeNumber]
  split
  · rename_i n d
    split
    · exact trivial
    · exact leaves_modify (w := .read positiveOnly n) (a := { a with place := d }) ha (hw n)
  · exact trivial

theorem leaves_takeMonth3 {names : Option Text} (ha : P a.row.cells)
    (hw : ∀ n, (Write.monthPart n).Keeps s P c) : (a.takeMonth3 s names c).Leaves P := by
  simp only [takeMonth3]
  split
  · exact trivial
  · rename_i month languages _
    split
    · exact trivial
    · exact leaves_modify (w := .monthPart month)
        (a := { a with place := a.place.advance 3, languages }) ha (hw month)

theorem leaves_takeMonthTxt {names : Option Text} (ha : P a.row.cells)
    (hw : ∀ n, (Write.monthPart n).Keeps s P c) : (a.takeMonthTxt s names c).Leaves P := by
  simp only [takeMonthTxt]
  split
  · exact trivial
  · rename_i month length languages _
    split
    · exact trivial
    · exact leaves_modify (w := .monthPart month)
        (a := { a with place := a.place.advance length, languages }) ha (hw month)

theorem leaves_takeDatePart {f : Nat → Option (DateParts → DateParts)} (ha : P a.row.cells)
    (hf : ∀ n change, f n = some change → ∃ w : Write, w.Keeps s P c ∧
      ∀ b : Attempt, b.setDate s change c = b.modify s w.cell? c) :
    (a.takeDatePart s f c).Leaves P := by
  simp only [takeDatePart]
  split
  · rename_i n d _
    split
    · rename_i change hchange
      rw [Option.ite_none_left_eq_some] at hchange
      obtain ⟨w, hw, heq⟩ := hf n change hchange.2
      rw [heq]
      exact leaves_modify (a := { a with place := d }) ha hw
    · exact trivial
  · exact trivial

theorem leaves_takeMonth (ha : P a.row.cells) (hw : ∀ n, (Write.monthPart n).Keeps s P c) :
    (a.takeMonth s c).Leaves P := by
  refine leaves_takeDatePart ha fun n change hchange => ⟨.monthPart n, hw n, fun b => ?_⟩
  obtain ⟨-, hchange⟩ := Option.ite_none_right_eq_some.1 hchange
  obtain rfl := Option.some.inj hchange
  rfl

theorem leaves_takeDay (ha : P a.row.cells) (hw : ∀ n, (Write.dayPart n).Keeps s P c) :
    (a.takeDay s c).Leaves P := by
  refine leaves_takeDatePart ha fun n change hchange => ⟨.dayPart n, hw n, fun b => ?_⟩
  obtain ⟨-, hchange⟩ := Option.ite_none_right_eq_some.1 hchange
  obtain rfl := Option.some.inj hchange
  rfl

theorem leaves_takeYear (ha : P a.row.cells)
    (hw : ∀ n : Int, 0 ≤ n ∧ n ≤ 9999 → (Write.yearPart n false).Keeps s P c) :
    (a.takeYear s c).Leaves P := by
  refine leaves_takeDatePart ha fun n change hchange => ?_
  obtain ⟨hyear, hchange⟩ := Option.ite_none_right_eq_some.1 hchange
  obtain rfl := Option.some.inj hchange
  exact ⟨.yearPart (fullYear n) false, hw _ (by omega), fun b => rfl⟩

theorem leaves_takeTime (ha : P a.row.cells) (hw : ∀ t, (Write.time t).Keeps s P c) :
    (a.takeTime s c).Leaves P := by
  simp only [takeTime]
  split
  · rename_i t d _
    exact leaves_modify (w := .time t) (a := { a with place := d }) ha (hw t)
  · exact trivial

theorem leaves_takeYearOrTime {date time : ColumnRef} (ha : P a.row.cells)
    (hy : ∀ n : Int, 0 ≤ n ∧ n ≤ 9999 → (Write.yearPart n false).Keeps e.columns P date)
    (hg : (Write.yearPart e.today.year true).Keeps e.columns P date)
    (ht : ∀ t, (Write.time t).Keeps e.columns P time) :
    (a.takeYearOrTime e date time).Leaves P := by
  simp only [takeYearOrTime]
  split
  · rename_i y d hread
    have hle := Cursor.year_le_of_yearOrTime? hread
    exact leaves_modify (w := .yearPart y false) (a := { a with place := d }) ha (hy y (by omega))
  · rename_i t d _
    exact (leaves_modify (w := .yearPart e.today.year true) (a := { a with place := d }) ha
      hg).andThen fun b hb => leaves_modify (w := .time t) hb (ht t)
  · exact trivial

theorem leaves_takeLink {name link : ColumnRef} (ha : P a.row.cells)
    (hn : ∀ t, (Write.text t).Keeps s P name) (hl : ∀ t, (Write.text t).Keeps s P link) :
    (a.takeLink s name link).Leaves P := by
  simp only [takeLink]
  split
  · exact trivial
  · rename_i l _
    refine Outcome.Leaves.andThen (leaves_modify (w := .text l.name) ?_ (hn _)) fun b hb => ?_
    · exact ha
    · split
      · exact hb
      · exact leaves_modify (w := .text _) hb (hl _)

theorem leaves_takeDevice (ha : P a.row.cells) (hw : ∀ t, (Write.text t).Keeps s P c) :
    (a.takeDevice s c).Leaves P := by
  simp only [takeDevice]
  split
  · exact trivial
  · rename_i d _
    exact leaves_modify (w := .text _) (a := { a with place := d }) ha (hw _)

theorem leaves_changeText {f : Text → Option Text} (ha : P a.row.cells)
    (hw : ∀ t, (Write.text t).Keeps s P c) : (a.changeText s f c).Leaves P := by
  simp only [changeText]
  split
  · exact trivial
  · split
    · exact leaves_modify (w := .text _) ha (hw _)
    · exact trivial

theorem leaves_skipSpaces (ha : P a.row.cells) : (a.skipSpaces e).Leaves P := by
  simp only [skipSpaces]
  split
  · exact trivial
  · split
    · split
      · exact ha
      · exact trivial
    · exact ha

theorem leaves_flag {v : Option Bool} {f : Bool → Row} (ha : P a.row.cells)
    (hf : ∀ b, (f b).cells = a.row.cells) :
    (match v with
      | some b => Outcome.continues { a with row := f b }
      | none => .stuck).Leaves P := by
  cases v with
  | none => exact trivial
  | some b => exact (congrArg P (hf b)).mpr ha

theorem leaves_assign {value : Param} (ha : P a.row.cells)
    (hw : ∀ w : Write, w.HasSource e a → w.Keeps e.columns P c) :
    (a.assign e c value).Leaves P := by
  simp only [assign]
  split
  · exact leaves_flag ha fun _ => rfl
  · exact leaves_flag ha fun _ => rfl
  · exact leaves_flag ha fun _ => rfl
  · rename_i o _ _ _
    split
    · exact leaves_elim fun t _ => leaves_modify (w := .text t) ha (hw _ trivial)
    · exact leaves_elim fun n _ => leaves_modify (w := .number n) ha (hw _ trivial)
    · exact leaves_elim fun ⟨day, month, year⟩ hdate =>
        leaves_modify (w := .wholeDate day month year) ha (hw _ ⟨o, hdate⟩)
    · exact leaves_elim fun t _ => leaves_modify (w := .time t) ha (hw _ trivial)
    · exact trivial
  · exact trivial

theorem leaves_apply (call : Call) (ha : P a.row.cells)
    (hw : ∀ c ∈ call.targets, ∀ w : Write, w.HasSource e a → w.Keeps e.columns P c) :
    (a.apply e call).Leaves P := by
  obtain ⟨f, ps⟩ := call
  have hmade {c : ColumnRef} {cs : List ColumnRef} (h : Call.targets ⟨f, ps⟩ = c :: cs) (w : Write)
      (hs : w.HasSource e a) : w.Keeps e.columns P c := hw c (h ▸ List.mem_cons_self) w hs
  have hstored {c : ColumnRef} {cs : List ColumnRef} (h : Call.targets ⟨f, ps⟩ = c :: cs) :
      ∀ d ∈ some c, ∀ t, (Write.text t).Keeps e.columns P d := by
    intro d hd t
    obtain rfl := Option.mem_some_iff.1 hd
    exact hmade h _ trivial
  simp only [apply]
  split
  · exact ha
  · exact ha
  · exact leaves_takeToken ha (by simp)
  · split
    · exact trivial
    · exact leaves_moveTo ha
  · exact leaves_skipSpaces ha
  · exact leaves_takeToken ha (by simp)
  · exact leaves_takeToken ha (hstored rfl)
  · exact leaves_takeToken ha (by simp)
  · exact leaves_takeToken ha (hstored rfl)
  · exact leaves_takeNumber ha fun n => hmade rfl _ trivial
  · exact leaves_takeNumber ha fun n => hmade rfl _ trivial
  · split
    · exact leaves_takeNumber ha fun n => hmade rfl _ trivial
    · exact trivial
  · exact leaves_takeMonth3 ha fun n => hmade rfl _ trivial
  · exact leaves_takeMonth3 ha fun n => hmade rfl _ trivial
  · exact leaves_takeMonthTxt ha fun n => hmade rfl _ trivial
  · exact leaves_takeMonthTxt ha fun n => hmade rfl _ trivial
  · exact leaves_takeMonth ha fun n => hmade rfl _ trivial
  · exact leaves_takeDay ha fun n => hmade rfl _ trivial
  · exact leaves_takeYear ha fun n hn => hmade rfl _ (.inl hn)
  · exact leaves_takeTime ha fun t => hmade rfl _ trivial
  · exact leaves_takeYearOrTime ha (fun n hn => hmade rfl _ (.inl hn)) (hmade rfl _ (.inr rfl))
      fun t => hw _ (List.mem_cons_of_mem _ List.mem_cons_self) _ trivial
  · exact leaves_takeChars ha (by simp)
  · exact leaves_takeChars ha (hstored rfl)
  · exact leaves_elim fun t _ => leaves_takeTo ha (by simp)
  · exact leaves_elim fun t _ => leaves_takeTo ha (hstored rfl)
  · exact leaves_elim fun t _ => leaves_takeTo ha (hstored rfl)
  · exact leaves_takeLink ha (fun t => hmade rfl _ trivial)
      fun t => hw _ (List.mem_cons_of_mem _ List.mem_cons_self) _ trivial
  · exact leaves_takeDevice ha fun t => hmade rfl _ trivial
  · split
    · exact ha
    · exact trivial
    · exact trivial
  · exact leaves_assign ha (hmade rfl)
  · exact leaves_changeText ha fun t => hmade rfl _ trivial
  · exact leaves_changeText ha fun t => hmade rfl _ trivial
  · exact leaves_changeText ha fun t => hmade rfl _ trivial
  · split
    · exact trivial
    · exact leaves_moveTo ha
  · exact leaves_elim fun t _ => leaves_changeText ha fun t => hmade rfl _ trivial
  · exact leaves_changeText ha fun t => hmade rfl _ trivial
  · exact trivial

end Attempt

theorem leaves_applyAll {P : List Cell → Prop} {e : Surroundings} {calls : List Call} {a : Attempt}
    (ha : P a.row.cells)
    (hw : ∀ call ∈ calls, ∀ c ∈ call.targets, ∀ (b : Attempt) (w : Write), P b.row.cells →
      w.HasSource e b → w.Keeps e.columns P c) :
    (applyAll e calls a).Leaves P := by
  induction calls generalizing a with
  | nil => exact ha
  | cons call more ih =>
      have hcall := Attempt.leaves_apply call ha fun c hc w =>
        hw call List.mem_cons_self c hc a w ha
      simp only [applyAll]
      cases ho : a.apply e call with
      | continues b =>
          rw [ho] at hcall
          exact ih hcall fun call h => hw call (List.mem_cons_of_mem _ h)
      | skipsRest b => simpa [ho] using hcall
      | fails left => exact trivial
      | stuck => exact trivial

theorem Write.keeps_of_ne {s : ColumnSet} {c : ColumnRef} {i : Nat} (hc : c ≠ .declared i)
    (x : Option Cell) (w : Write) : w.Keeps s (·[i]? = x) c := by
  rintro j column old new cells rfl - - - h
  rw [List.getElem?_set_ne (by rintro rfl; exact hc rfl)]
  exact h

theorem cell_of_applyAll {e : Surroundings} {calls : List Call} {a b : Attempt} {i : Nat}
    (ho : applyAll e calls a = .continues b)
    (hi : ∀ call ∈ calls, .declared i ∉ call.targets) : b.row.cells[i]? = a.row.cells[i]? := by
  have hleaves : (applyAll e calls a).Leaves (·[i]? = a.row.cells[i]?) :=
    leaves_applyAll rfl fun call hcall c hc _ w _ _ =>
      w.keeps_of_ne (fun h => hi call hcall (h ▸ hc)) _
  rwa [ho] at hleaves

theorem applyAll_of_applyRule {e : Surroundings} {place stop : Cursor} {rule : Rule} {row : Row}
    {before after : Languages} (h : applyRule e place before rule = .matched stop row after) :
    ∃ c, applyAll e rule.calls ⟨place, Row.empty e.columns, before⟩ =
      .continues ⟨c, row, after⟩ := by
  simp only [applyRule] at h
  split at h
  · rename_i a ha
    split at h
    · simp at h
    · injection h with _ hrow hafter
      exact ⟨a.place, by rw [ha, ← hrow, ← hafter]⟩
  · split at h <;> simp at h
  · simp at h
  · simp at h

end Listing

end ListingRules
