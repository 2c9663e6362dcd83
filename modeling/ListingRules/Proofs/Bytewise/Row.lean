import ListingRules.Proofs.Bytewise.Cell
import ListingRules.Proofs.Bytewise.Window
import ListingRules.Proofs.Filling

namespace ListingRules.Bytewise

open Text (byteCount isLineEnd isSpace isVisible)
open Cursor (Spans)
open Listing (Surroundings keptNumber?)

structure Attempt where
  offset : Nat
  row : Row
  languages : Languages
  deriving DecidableEq, Repr

inductive Outcome where
  | continues (a : Attempt)
  | skipsRest (a : Attempt)
  | fails (languages : Languages)
  deriving DecidableEq, Repr

def ofAttempt (a : Listing.Attempt) : Attempt :=
  ⟨a.place.offset, ofRow a.row, a.languages⟩

def ofOutcome : Listing.Outcome → Checked Outcome
  | .continues a => .ok (.continues (ofAttempt a))
  | .skipsRest a => .ok (.skipsRest (ofAttempt a))
  | .fails languages => .ok (.fails languages)
  | .stuck => .error .mistyped

def Outcome.andThen (o : Outcome) (f : Attempt → Checked Outcome) : Checked Outcome :=
  match o with
  | .continues a => f a
  | .skipsRest a => .ok (.skipsRest a)
  | .fails languages => .ok (.fails languages)

def required {α : Type} (x : Option α) : Checked α :=
  x.elim (.error .mistyped) .ok

def declaredCell (a : Attempt) : Operand → Checked Cell
  | .column (.declared i) => required a.row.cells[i]?
  | _ => .error .mistyped

def textOf (w : Window) (a : Attempt) (o : Operand) : Checked Text := do
  let rest ← sliceFrom w.text a.offset
  match o with
  | .text t => return t
  | .state .nextChar => sliceTo rest (rest.head?.elim 0 Char.utf8Size)
  | .state .nextWord => sliceTo rest ((findByte? isSpace rest).getD (byteCount rest))
  | .state .restOfLine => sliceTo rest ((findByte? isLineEnd rest).getD (byteCount rest))
  | o => return (← declaredCell a o).text

def numberOf (a : Attempt) : Operand → Checked (Option Int)
  | .number n => .ok (some n)
  | o => do return (← declaredCell a o).number

def dateOf (a : Attempt) (o : Operand) : Checked (Nat × Nat × Int) := do
  let c ← declaredCell a o
  return (c.day, c.month, c.year)

def timeOf (a : Attempt) (o : Operand) : Checked Time := do
  return (← declaredCell a o).time

def boolOf (e : Surroundings) (a : Attempt) : Operand → Checked Bool
  | .bool b => .ok b
  | .column .isDir => .ok a.row.isDir
  | .column .isHidden => .ok a.row.isHidden
  | .column .isLink => .ok a.row.isLink
  | .state .firstNonemptyLine => .ok (e.lines.first.any (·.contains a.offset))
  | .state .lastNonemptyLine => .ok (e.lines.last.any (·.contains a.offset))
  | _ => .error .mistyped

def compareTexts (op : Operator) (l r : Text) : Checked Bool := do
  match op with
  | .within => return (← find l r).isSome
  | .notWithin => return !(← find l r).isSome
  | _ => return Listing.compareTexts op l r

def compareValues {α : Type} [DecidableEq α] (op : Operator) (l r : α) : Checked Bool :=
  required (Listing.compareValues op l r)

def eval (w : Window) (e : Surroundings) (a : Attempt) : ListingRules.Param → Checked Bool
  | .operand o => boolOf e a o
  | .comparison l op r =>
      match l.type? e.columns with
      | some .boolean => do compareValues op (← boolOf e a l) (← boolOf e a r)
      | some .text => do compareTexts op (← textOf w a l) (← textOf w a r)
      | some .number => do compareValues op (← numberOf a l) (← numberOf a r)
      | some .date => do compareValues op (← dateOf a l) (← dateOf a r)
      | some .time => do compareValues op (← timeOf a l) (← timeOf a r)
      | none => .error .mistyped

def keptText (k : ColumnKind) (t : Text) : Checked Text :=
  if k = .name then truncate t Listing.maxNameBytes else .ok t

namespace Attempt

def modify (s : ColumnSet) (f : ColumnKind → Cell → Checked (Option Cell)) (c : ColumnRef)
    (a : Attempt) : Checked Outcome :=
  match c with
  | .declared i =>
      match s.get? i, a.row.cells[i]? with
      | some column, some cell => do
          match ← f column.kind cell with
          | some cell => return .continues { a with row := a.row.set i cell }
          | none => return .fails a.languages
      | _, _ => .error .mistyped
  | _ => .error .mistyped

def setText (s : ColumnSet) (t : Text) : ColumnRef → Attempt → Checked Outcome :=
  modify s fun k cell => do return some (cell.setText (← keptText k t))

def setNumber (s : ColumnSet) (positiveOnly : Bool) (n : Int) :
    ColumnRef → Attempt → Checked Outcome :=
  modify s fun k cell => .ok ((keptNumber? k positiveOnly n).map fun n => cell.setNumber n)

def setDate (s : ColumnSet) (f : Cell → Checked Cell) : ColumnRef → Attempt → Checked Outcome :=
  modify s fun _ cell => do return some (← f cell)

def setTime (s : ColumnSet) (t : Time) : ColumnRef → Attempt → Checked Outcome :=
  modify s fun _ cell => .ok (some (cell.setTime t))

def store (w : Window) (s : ColumnSet) (start stop : Nat) (target : Option ColumnRef)
    (a : Attempt) : Checked Outcome :=
  match target with
  | none => .ok (.continues a)
  | some c => do
      let t ← slice w.text start stop
      a.setText s t c

end Attempt

section Agreement

variable {w : Window} {e : Surroundings} {s : ColumnSet} {a : Listing.Attempt} {o : Operand}
  {c : ColumnRef}

theorem andThen_agrees {x : Checked Outcome} {o : Listing.Outcome}
    {f : Attempt → Checked Outcome} {g : Listing.Attempt → Listing.Outcome}
    (hx : x = ofOutcome o) (hf : ∀ b, o = .continues b → f (ofAttempt b) = ofOutcome (g b)) :
    (do (← x).andThen f) = ofOutcome (o.andThen g) := by
  subst hx
  cases o with
  | continues b => exact hf b rfl
  | skipsRest b => rfl
  | fails languages => rfl
  | stuck => rfl

theorem sliceTo_head? (t : Text) :
    sliceTo t (t.head?.elim 0 Char.utf8Size) = .ok (t.take 1) := by
  refine sliceTo_eq_ok_iff.2 ⟨t.drop 1, (List.take_append_drop 1 t).symm, ?_⟩
  cases t <;> simp

theorem declaredCell_agrees {i : Nat} {cell : Listing.Cell} (h : a.row.cells[i]? = some cell) :
    declaredCell (ofAttempt a) (.column (.declared i)) = .ok (ofCell cell) := by
  simp [declaredCell, ofAttempt, getElem?_ofRow, h, required]

theorem textOf_agrees (h : w.Sees a.place) {t : Text} (ht : Listing.textOf? a o = some t) :
    textOf w (ofAttempt a) o = .ok t := by
  have hrest : sliceFrom w.text (ofAttempt a).offset = .ok a.place.ahead := h.sliceFrom
  rw [textOf, hrest, ok_bind]
  cases o with
  | column c =>
      cases c with
      | declared i =>
          simp only [declaredCell_agrees (Listing.Row.text?_eq_some_iff.1 ht), ok_bind]
          rfl
      | _ => simp [Listing.textOf?] at ht
  | text x => exact congrArg Except.ok (Option.some.inj ht)
  | state v =>
      cases v with
      | nextChar => exact (sliceTo_head? _).trans (congrArg Except.ok (Option.some.inj ht))
      | nextWord => exact (sliceTo_findByte? _ _).trans (congrArg Except.ok (Option.some.inj ht))
      | restOfLine =>
          exact (sliceTo_findByte? _ _).trans (congrArg Except.ok (Option.some.inj ht))
      | _ => simp [Listing.textOf?] at ht
  | _ => simp [Listing.textOf?] at ht

theorem numberOf_agrees {n : Option Int} (hn : Listing.numberOf? a o = some n) :
    numberOf (ofAttempt a) o = .ok n := by
  cases o with
  | column c =>
      cases c with
      | declared i =>
          rw [numberOf, declaredCell_agrees (Listing.Row.number?_eq_some_iff.1 hn)]
          · rfl
          · simp
      | _ => simp [Listing.numberOf?] at hn
  | number m => exact congrArg Except.ok (Option.some.inj hn)
  | _ => simp [Listing.numberOf?] at hn

theorem dateOf_agrees {date : Nat × Nat × Int} (hdate : Listing.dateOf? a o = some date) :
    dateOf (ofAttempt a) o = .ok date := by
  cases o with
  | column c =>
      cases c with
      | declared i =>
          obtain ⟨d, hcell, hwhole⟩ := Listing.Row.date?_eq_some_iff.1 hdate
          obtain ⟨hday, hmonth, hyear⟩ := Listing.DateParts.whole?_eq_some_iff.1 hwhole
          simp [dateOf, declaredCell_agrees hcell, ofCell, hday, hmonth, hyear]
      | _ => simp [Listing.dateOf?] at hdate
  | _ => simp [Listing.dateOf?] at hdate

theorem timeOf_agrees {t : Time} (ht : Listing.timeOf? a o = some t) :
    timeOf (ofAttempt a) o = .ok t := by
  cases o with
  | column c =>
      cases c with
      | declared i =>
          rw [timeOf, declaredCell_agrees (Listing.Row.time?_eq_some_iff.1 ht)]
          rfl
      | _ => simp [Listing.timeOf?] at ht
  | _ => simp [Listing.timeOf?] at ht

theorem boolOf_agrees {b : Bool} (hb : Listing.boolOf? e a o = some b) :
    boolOf e (ofAttempt a) o = .ok b := by
  cases o with
  | column c =>
      cases c with
      | declared i => simp [Listing.boolOf?] at hb
      | _ => exact congrArg Except.ok (Option.some.inj hb)
  | bool x => exact congrArg Except.ok (Option.some.inj hb)
  | state v =>
      cases v with
      | firstNonemptyLine => exact congrArg Except.ok (Option.some.inj hb)
      | lastNonemptyLine => exact congrArg Except.ok (Option.some.inj hb)
      | _ => simp [Listing.boolOf?] at hb
  | _ => simp [Listing.boolOf?] at hb

theorem compareTexts_eq (op : Operator) (l r : Text) :
    compareTexts op l r = .ok (Listing.compareTexts op l r) := by
  cases op <;>
    simp [compareTexts, find_eq, Listing.compareTexts, Text.contains]

theorem compareValues_agrees {α : Type} [DecidableEq α] {op : Operator} {x y : Checked α}
    {l r : Option α} {b : Bool} (hx : ∀ v, l = some v → x = .ok v)
    (hy : ∀ v, r = some v → y = .ok v)
    (h : (do Listing.compareValues op (← l) (← r)) = some b) :
    (do compareValues op (← x) (← y)) = .ok b := by
  obtain ⟨v, hl, h⟩ := Option.bind_eq_some_iff.1 h
  obtain ⟨u, hr, h⟩ := Option.bind_eq_some_iff.1 h
  rw [hx v hl, hy u hr]
  exact congrArg required h

theorem eval_agrees (h : w.Sees a.place) {p : ListingRules.Param} {b : Bool}
    (hp : Listing.Param.eval? e a p = some b) : eval w e (ofAttempt a) p = .ok b := by
  cases p with
  | operand o => exact boolOf_agrees hp
  | comparison l op r =>
      simp only [eval, Listing.Param.eval?] at hp ⊢
      cases ht : l.type? e.columns with
      | none => simp [ht] at hp
      | some t =>
          rw [ht] at hp
          cases t with
          | boolean =>
              exact compareValues_agrees (fun _ => boolOf_agrees) (fun _ => boolOf_agrees) hp
          | text =>
              obtain ⟨x, hl, hp⟩ := Option.bind_eq_some_iff.1 hp
              obtain ⟨y, hr, hp⟩ := Option.bind_eq_some_iff.1 hp
              obtain rfl := Option.some.inj hp
              simp only [textOf_agrees h hl, textOf_agrees h hr, ok_bind, compareTexts_eq]
          | number =>
              exact compareValues_agrees (fun _ => numberOf_agrees) (fun _ => numberOf_agrees) hp
          | date => exact compareValues_agrees (fun _ => dateOf_agrees) (fun _ => dateOf_agrees) hp
          | time => exact compareValues_agrees (fun _ => timeOf_agrees) (fun _ => timeOf_agrees) hp

theorem keptText_eq (k : ColumnKind) (t : Text) : keptText k t = .ok (Listing.keptText k t) := by
  simp only [keptText, Listing.keptText, truncate_eq]
  split <;> rfl

theorem modify_agrees {f : ColumnKind → Cell → Checked (Option Cell)}
    {g : ColumnKind → Listing.Cell → Option Listing.Cell} {t : OperandType}
    (hf : ∀ k cell, cell.Fits (some t) → f k (ofCell cell) = .ok ((g k cell).map ofCell))
    (hrow : a.row.Typed s) (hc : s.operandType? c = some t) :
    (ofAttempt a).modify s f c = ofOutcome (a.modify s g c) := by
  cases c with
  | declared i =>
      obtain ⟨column, hcolumn, hkind⟩ := Listing.Row.exists_column hc
      obtain ⟨cell, hcell, hfits⟩ := hrow.exists_cell hcolumn
      simp only [Attempt.modify, Listing.Attempt.modify, ofAttempt, getElem?_ofRow, hcolumn, hcell,
        Option.map_some, hf _ _ (hkind ▸ hfits), ok_bind]
      cases g column.kind cell with
      | none => rfl
      | some new => simp [ofOutcome, ofAttempt, ofRow_set]
  | _ => rfl

theorem setText_agrees (t : Text) (hrow : a.row.Typed s) (hc : s.operandType? c = some .text) :
    (ofAttempt a).setText s t c = ofOutcome (a.setText s t c) := by
  refine modify_agrees (fun k cell hfits => ?_) hrow hc
  rw [keptText_eq, ok_bind, setText_ofCell hfits]
  rfl

theorem setNumber_agrees (positiveOnly : Bool) (n : Int) (hrow : a.row.Typed s)
    (hc : s.operandType? c = some .number) :
    (ofAttempt a).setNumber s positiveOnly n c = ofOutcome (a.setNumber s positiveOnly n c) := by
  refine modify_agrees (fun k cell hfits => ?_) hrow hc
  cases keptNumber? k positiveOnly n with
  | none => rfl
  | some m => exact congrArg (Except.ok ∘ some) (setNumber_ofCell hfits m)

theorem setDate_agrees {f : Cell → Checked Cell} {g : Listing.DateParts → Listing.DateParts}
    (hf : ∀ d, f (ofCell (.date d)) = .ok (ofCell (.date (g d)))) (hrow : a.row.Typed s)
    (hc : s.operandType? c = some .date) :
    (ofAttempt a).setDate s f c = ofOutcome (a.setDate s g c) := by
  refine modify_agrees (fun k cell hfits => ?_) hrow hc
  rw [← ofCell_dateParts hfits, hf]
  rfl

theorem setTime_agrees (t : Time) (hrow : a.row.Typed s) (hc : s.operandType? c = some .time) :
    (ofAttempt a).setTime s t c = ofOutcome (a.setTime s t c) :=
  modify_agrees (fun _ _ hfits => congrArg (Except.ok ∘ some) (setTime_ofCell hfits t)) hrow hc

theorem store_agrees {start stop : Nat} {t : Text} {target : Option ColumnRef}
    (ht : slice w.text start stop = .ok t) (hrow : a.row.Typed s)
    (hc : ∀ c ∈ target, s.operandType? c = some .text) :
    (ofAttempt a).store w s start stop target = ofOutcome (a.store s t target) := by
  cases target with
  | none => rfl
  | some c =>
      simp only [Attempt.store, ht, ok_bind]
      exact setText_agrees t hrow (hc c rfl)

end Agreement

end ListingRules.Bytewise
