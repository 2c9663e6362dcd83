import Mathlib.Data.Option.Basic
import ListingRules.Proofs.Movement
import ListingRules.Proofs.RowTyping
import ListingRules.Proofs.Tokens

namespace ListingRules

open Text (isBlank isLineEnd isVisible)

namespace Text

def IsWord (t : Text) : Prop :=
  t ≠ [] ∧ ∀ x ∈ t, isVisible x = true

instance (t : Text) : Decidable (IsWord t) :=
  decidable_of_iff (t ≠ [] ∧ t.all isVisible = true) (by simp [IsWord])

theorem isVisible_of_isAlphabetic {c : Char} (h : Character.isAlphabetic c = true) :
    isVisible c = true := by
  have hspace : ¬ c ≤ ' ' := by
    intro hc
    have hle : c.toNat ≤ 32 := hc
    have hall : ∀ n < 33, (Char.ofNat n).isAlpha = false := by decide
    have halpha := hall c.toNat (Nat.lt_succ_of_le hle)
    rw [Character.isAlphabetic_of_ascii (Nat.lt_of_le_of_lt hle (by decide))] at h
    rw [Char.ofNat_toNat, h] at halpha
    cases halpha
  simp [isVisible, isSpace, hspace]

theorem isWord_of_read? {t : Text} {n : Nat} (h : Decimal.read? t = some n) : IsWord t := by
  obtain ⟨hne, hdigits⟩ := Decimal.isDigit_of_read? h
  exact ⟨hne, fun x hx => isVisible_of_isDigit (hdigits x hx)⟩

theorem IsWord.stops_isBlank {t : Text} (h : IsWord t) (rest : Text) :
    Stops isBlank (t ++ rest) := by
  obtain ⟨hne, hvisible⟩ := h
  cases t with
  | nil => exact absurd rfl hne
  | cons x t => exact stops_cons (isBlank_eq_false_of_isVisible (hvisible x List.mem_cons_self))

theorem isBlank_of_mem_replicate {n : Nat} {x : Char} (hx : x ∈ List.replicate n ' ') :
    isBlank x = true := by
  rw [List.eq_of_mem_replicate hx]
  decide

def blanks (n : Nat) : Text :=
  List.replicate (n + 1) ' '

end Text

namespace Cursor

theorem nextIsAlphabetic_eq_false_iff {c : Cursor} :
    c.nextIsAlphabetic = false ↔ Stops Character.isAlphabetic c.ahead :=
  stops_iff.symm

theorem nextIsAlphabetic_of_stops {c : Cursor} (h : Stops isVisible c.ahead) :
    c.nextIsAlphabetic = false :=
  nextIsAlphabetic_eq_false_iff.2 (h.mono fun _ => Text.isVisible_of_isAlphabetic)

theorem digits?_append {digits rest : Text} {n : Nat} (hn : Decimal.read? digits = some n)
    (hrest : Stops Char.isDigit rest) (behind : Text) :
    (⟨behind, digits ++ rest⟩ : Cursor).digits? = some (n, ⟨digits.reverse ++ behind, rest⟩) := by
  have hdigits := (Decimal.isDigit_of_read? hn).2
  simp only [digits?, takeWhile_append_of_stops hdigits hrest, hn,
    skipWhile_append behind hdigits hrest, Option.map_some]

def isSign (x : Char) : Bool :=
  x == '+' || x == '-'

theorem isSign_eq_false_of_isDigit {x : Char} (h : x.isDigit = true) : isSign x = false := by
  refine Bool.eq_false_iff.2 fun hsign => ?_
  have hx : x = '+' ∨ x = '-' := by simpa [isSign] using hsign
  rcases hx with rfl | rfl <;> exact absurd h (by decide)

theorem sign_append (sign : Option Char) {t : Text} (hsign : ∀ x ∈ sign, isSign x = true)
    (hnone : sign = none → Stops isSign t) (behind : Text) :
    (⟨behind, sign.toList ++ t⟩ : Cursor).sign =
      (decide (sign = some '-'), ⟨sign.toList.reverse ++ behind, t⟩) := by
  cases sign with
  | none =>
      have hno {x : Char} (hx : isSign x = true) : t.head? ≠ some x :=
        fun h => Bool.false_ne_true ((hnone rfl x h).symm.trans hx)
      simp only [Cursor.sign, Option.toList_none, List.nil_append]
      split
      · exact absurd ‹_› (hno rfl)
      · exact absurd ‹_› (hno rfl)
      · rfl
  | some x =>
      have hx : x = '+' ∨ x = '-' := by simpa [isSign] using hsign x rfl
      rcases hx with rfl | rfl <;> rfl

theorem signedDigits?_append {digits rest : Text} {n : Nat} (hn : Decimal.read? digits = some n)
    (hrest : Stops Char.isDigit rest) (behind : Text) :
    (⟨behind, digits ++ rest⟩ : Cursor).signedDigits? =
      some ((n : Int), ⟨digits.reverse ++ behind, rest⟩) := by
  obtain ⟨hne, hdigits⟩ := Decimal.isDigit_of_read? hn
  have hunsigned : Stops isSign (digits ++ rest) := by
    cases digits with
    | nil => exact absurd rfl hne
    | cons x digits =>
        exact stops_cons (isSign_eq_false_of_isDigit (hdigits x List.mem_cons_self))
  have hsign : (⟨behind, digits ++ rest⟩ : Cursor).sign = (false, ⟨behind, digits ++ rest⟩) :=
    sign_append none (by simp) (fun _ => hunsigned) behind
  simp [signedDigits?, hsign, digits?_append hn hrest]

theorem forward?_append {p : Char → Bool} {a : Text} (ha : ∀ x ∈ a, p x = true)
    (behind rest : Text) :
    forward? p a.length ⟨behind, a ++ rest⟩ = some ⟨a.reverse ++ behind, rest⟩ := by
  induction a generalizing behind with
  | nil => rfl
  | cons x a ih =>
      have hx : p x = true := ha x List.mem_cons_self
      simp [forward?, hx, ih fun y hy => ha y (List.mem_cons_of_mem x hy)]

theorem forward?_eq_none {p : Char → Bool} {n : Nat} {c : Cursor}
    (h : (c.ahead.takeWhile p).length < n) : forward? p n c = none := by
  induction n generalizing c with
  | zero => omega
  | succ n ih =>
      obtain ⟨behind, ahead⟩ := c
      cases ahead with
      | nil => rfl
      | cons x ahead =>
          cases hx : p x with
          | false => simp [forward?, hx]
          | true =>
              simp only [List.takeWhile_cons, hx, ↓reduceIte, List.length_cons] at h
              simp [forward?, hx, ih (c := ⟨x :: behind, ahead⟩) (Nat.lt_of_succ_lt_succ h)]

theorem yearOrTime?_year {digits rest : Text} {year : Nat}
    (hread : Decimal.read? digits = some year) (hfirst : 1602 ≤ year) (hlast : year ≤ 9999)
    (hrest : Stops isVisible rest) (behind : Text) :
    (⟨behind, digits ++ rest⟩ : Cursor).yearOrTime? =
      some (.year year, ⟨digits.reverse ++ behind, rest⟩) := by
  have hletter : (⟨digits.reverse ++ behind, rest⟩ : Cursor).nextIsAlphabetic = false :=
    nextIsAlphabetic_of_stops hrest
  have hhour : ¬ year < 24 := by omega
  have hrange : 1601 ≤ year ∧ year < 10000 := by omega
  have hnext : year ≠ 1601 := by omega
  simp [yearOrTime?, digits?_append hread (hrest.mono fun _ => Text.isVisible_of_isDigit), hletter,
    hhour, hrange, hnext, guard]

theorem yearOrTime?_time {t : Time} (ht : t.second = 0 ∧ t.milli = 0) {rest : Text}
    (hrest : Stops isVisible rest) (behind : Text) :
    (⟨behind, Decimal.padded 2 t.hour ++ ':' :: (Decimal.padded 2 t.minute ++ rest)⟩ :
        Cursor).yearOrTime? =
      some (.time t, ⟨(Decimal.padded 2 t.hour ++ ':' :: Decimal.padded 2 t.minute).reverse ++
        behind, rest⟩) := by
  obtain ⟨hhour, hminute, -, -⟩ := t.isTimeOfDay
  have hread (n : Nat) (hn : n < 60) : Decimal.read? (Decimal.padded 2 n) = some n :=
    Decimal.read?_padded 2 (Nat.le_trans (Nat.le_of_lt hn) (by decide))
  have hcolon (t : Text) : Stops Char.isDigit (':' :: t) := stops_cons (by decide)
  have hletter (b : Text) : (⟨b, rest⟩ : Cursor).nextIsAlphabetic = false :=
    nextIsAlphabetic_of_stops hrest
  have htime : Time.ofParts? t.hour t.minute 0 0 = some t :=
    Time.ofParts?_eq_some_iff.2 ⟨rfl, rfl, ht⟩
  simp [yearOrTime?, digits?_append (hread t.hour (by omega)) (hcolon _), hhour,
    digits?_append (hread t.minute hminute) (hrest.mono fun _ => Text.isVisible_of_isDigit),
    hletter, htime, guard]

end Cursor

namespace Listing

structure Found where
  row : Row
  languages : Languages

def Found.at (f : Found) (c : Cursor) : Attempt :=
  ⟨c, f.row, f.languages⟩

def Takes (e : Surroundings) (calls : List Call) (taken rest : Text) (f g : Found) : Prop :=
  ∀ behind, applyAll e calls (f.at ⟨behind, taken ++ rest⟩) =
    .continues (g.at ⟨taken.reverse ++ behind, rest⟩)

def callOn (f : RuleFunction) (columns : List Nat) : Call :=
  ⟨f, columns.map fun i => .operand (.column (.declared i))⟩

section Takes

variable {e : Surroundings} {f g h : Found} {calls more : List Call} {t u rest : Text}

theorem Takes.applyAll_append (ht : Takes e calls t rest f g) (more : List Call) (behind : Text) :
    applyAll e (calls ++ more) (f.at ⟨behind, t ++ rest⟩) =
      applyAll e more (g.at ⟨t.reverse ++ behind, rest⟩) := by
  rw [Listing.applyAll_append, ht behind]
  rfl

theorem Takes.append (ht : Takes e calls t (u ++ rest) f g) (hu : Takes e more u rest g h) :
    Takes e (calls ++ more) (t ++ u) rest f h := by
  intro behind
  rw [List.append_assoc, ht.applyAll_append, hu]
  simp

theorem Takes.applyRule {r : Rule} {languages : Languages}
    (ht : Takes e r.calls t ('\n' :: rest) ⟨Row.empty e.columns, languages⟩ f)
    (hname : f.row.hasEmptyName e.columns = false) (behind : Text) :
    applyRule e ⟨behind, t ++ '\n' :: rest⟩ languages r =
      .matched ⟨'\n' :: (t.reverse ++ behind), rest⟩ f.row f.languages := by
  have hcalls := ht behind
  simp only [Found.at] at hcalls
  simp [Listing.applyRule, hcalls, hname, Cursor.atLineEnd, Cursor.skipLineEnd, Text.isLineEnd]

theorem takes_of_apply {call : Call}
    (ht : ∀ behind, (f.at ⟨behind, t ++ rest⟩).apply e call =
      .continues (g.at ⟨t.reverse ++ behind, rest⟩)) :
    Takes e [call] t rest f g := by
  intro behind
  simp only [applyAll, ht behind]

structure Row.Holds (s : ColumnSet) (row : Row) (i : Nat) (k : ColumnKind) (cell : Cell) :
    Prop where
  kind : (s.get? i).map (·.kind) = some k
  cell : row.cells[i]? = some cell

theorem Row.Typed.holds {s : ColumnSet} {row : Row} {i : Nat} {t : OperandType} (h : row.Typed s)
    (ht : s.operandType? (.declared i) = some t) : ∃ k cell, row.Holds s i k cell := by
  obtain ⟨column, hcolumn, -⟩ := Row.exists_column ht
  obtain ⟨cell, hcell, -⟩ := h.exists_cell hcolumn
  exact ⟨column.kind, cell, by simp [hcolumn], hcell⟩

def Found.set (f : Found) (i : Nat) (cell : Cell) : Found :=
  { f with row := f.row.set i cell }

def Found.setDate (f : Found) (i : Nat) (change : DateParts → DateParts) (cell : Cell) : Found :=
  f.set i (.date (change cell.dateParts))

namespace Row.Holds

variable {s : ColumnSet} {f : Found} {i : Nat} {k : ColumnKind} {cell : Cell}

theorem modify (h : f.row.Holds s i k cell) {change : ColumnKind → Cell → Option Cell} {new : Cell}
    (hnew : change k cell = some new) (c : Cursor) :
    (f.at c).modify s change (.declared i) = .continues ((f.set i new).at c) := by
  obtain ⟨column, hcolumn, rfl⟩ := Option.map_eq_some_iff.1 h.kind
  simp only [Attempt.modify, Found.at, hcolumn, h.cell, hnew, Found.set]

theorem setText (h : f.row.Holds s i k cell) (t : Text) (c : Cursor) :
    (f.at c).setText s t (.declared i) = .continues ((f.set i (.text (keptText k t))).at c) :=
  h.modify rfl c

theorem setNumber (h : f.row.Holds s i k cell) (positiveOnly : Bool) (n : Nat) (c : Cursor) :
    (f.at c).setNumber s positiveOnly n (.declared i) =
      .continues ((f.set i (.number (some (n : Int)))).at c) :=
  h.modify (by simp [keptNumber?]) c

theorem setDate (h : f.row.Holds s i k cell) (change : DateParts → DateParts) (c : Cursor) :
    (f.at c).setDate s change (.declared i) = .continues ((f.setDate i change cell).at c) :=
  h.modify rfl c

theorem setTime (h : f.row.Holds s i k cell) (t : Time) (c : Cursor) :
    (f.at c).setTime s t (.declared i) = .continues ((f.set i (.time t)).at c) :=
  h.modify rfl c

end Row.Holds

variable {i : Nat} {k : ColumnKind} {cell : Cell}

theorem takeToken_of_known {p : Char → Bool} (ht : ∀ x ∈ t, p x = true) (hne : t ≠ [])
    (hrest : Stops p rest) (target : Option ColumnRef) (behind : Text) :
    (f.at ⟨behind, t ++ rest⟩).takeToken e.columns p target =
      (f.at ⟨t.reverse ++ behind, rest⟩).store e.columns t target := by
  simp only [Attempt.takeToken, Found.at, takeWhile_append_of_stops ht hrest,
    Cursor.skipWhile_append behind ht hrest]

theorem takes_whiteSpaces (n : Nat) (hrest : Stops isBlank rest) :
    Takes e [callOn .whiteSpaces []] (Text.blanks n) rest f f := by
  refine takes_of_apply fun behind => ?_
  have hne : Text.blanks n ≠ [] := by simp [Text.blanks]
  have hblank : ∀ x ∈ Text.blanks n, isBlank x = true := fun _ => Text.isBlank_of_mem_replicate
  exact takeToken_of_known (e := e) hblank hne hrest none behind

theorem takes_whiteSpaces_count (n : Nat) :
    Takes e [⟨.whiteSpaces, [.operand (.number n)]⟩] (List.replicate n ' ') rest f f := by
  refine takes_of_apply fun behind => ?_
  have hblank : ∀ x ∈ List.replicate n ' ', isBlank x = true :=
    fun _ => Text.isBlank_of_mem_replicate
  have hforward := Cursor.forward?_append hblank behind rest
  rw [List.length_replicate] at hforward
  have hn : ¬ (n : Int) < 0 := by omega
  simp [Attempt.apply, Attempt.moveTo, Found.at, hn, hforward]

theorem takes_word (ht : Text.IsWord t) (hrest : Stops isVisible rest) :
    Takes e [callOn .word []] t rest f f := by
  refine takes_of_apply fun behind => ?_
  exact takeToken_of_known (e := e) ht.2 ht.1 hrest none behind

theorem takes_word_column (hcell : f.row.Holds e.columns i k cell) (ht : Text.IsWord t)
    (hrest : Stops isVisible rest) :
    Takes e [callOn .word [i]] t rest f
      (f.set i (.text (keptText k t))) := by
  refine takes_of_apply fun behind => ?_
  exact (takeToken_of_known ht.2 ht.1 hrest _ behind).trans (hcell.setText t _)

theorem takes_restOfLine_column (hcell : f.row.Holds e.columns i k cell) (hne : t ≠ [])
    (ht : ∀ x ∈ t, isLineEnd x = false) (hrest : Stops (! isLineEnd ·) rest) :
    Takes e [callOn .restOfLine [i]] t rest f
      (f.set i (.text (keptText k t))) := by
  refine takes_of_apply fun behind => ?_
  exact (takeToken_of_known (by simpa using ht) hne hrest _ behind).trans (hcell.setText t _)

theorem takes_positiveNumber {n : Nat} (hcell : f.row.Holds e.columns i k cell)
    (hread : Decimal.read? t = some n) (hrest : Stops isVisible rest) :
    Takes e [callOn .positiveNumber [i]] t rest f
      (f.set i (.number (some (n : Int)))) := by
  refine takes_of_apply fun behind => ?_
  have hletter : (⟨t.reverse ++ behind, rest⟩ : Cursor).nextIsAlphabetic = false :=
    Cursor.nextIsAlphabetic_of_stops hrest
  have hdigits := hrest.mono fun _ => Text.isVisible_of_isDigit
  simp only [callOn, List.map, Attempt.apply, Attempt.takeNumber, Found.at,
    Cursor.signedDigits?_append hread hdigits, hletter]
  exact hcell.setNumber true n _

theorem takes_month3 {m : MonthName} (hcell : f.row.Holds e.columns i k cell)
    (hm : MonthName.shortAt? t = some m) (hused : m.isUsedIn f.languages = true)
    (hrest : Stops isVisible rest) :
    Takes e [callOn .month3 [i]] t rest f
      (Found.setDate { f with languages := m.narrow f.languages } i
        (fun d => { d with month := some m.month }) cell) := by
  refine takes_of_apply fun behind => ?_
  have hlength : t.length = 3 := MonthName.length_of_shortAt? hm
  have htake : (t ++ rest).take 3 = t := by rw [← hlength, List.take_left]
  have hplace : Cursor.advance 3 ⟨behind, t ++ rest⟩ = ⟨t.reverse ++ behind, rest⟩ := by
    rw [← hlength, Cursor.advance_append]
  have hletter : (⟨t.reverse ++ behind, rest⟩ : Cursor).nextIsAlphabetic = false :=
    Cursor.nextIsAlphabetic_of_stops hrest
  simp only [callOn, List.map, Attempt.apply, Attempt.takeMonth3, Found.at, htake, hlength,
    MonthName.readShort?_eq, hm, Option.filter, hused, hplace, hletter, ↓reduceIte,
    Option.map_some, Bool.false_eq_true]
  exact Row.Holds.setDate (f := { f with languages := m.narrow f.languages }) hcell _ _

theorem takes_day {n : Nat} (hcell : f.row.Holds e.columns i k cell)
    (hread : Decimal.read? t = some n) (hday : 1 ≤ n ∧ n ≤ 31) (hrest : Stops isVisible rest) :
    Takes e [callOn .day [i]] t rest f
      (f.setDate i (fun d => { d with day := some n }) cell) := by
  refine takes_of_apply fun behind => ?_
  have hletter : (⟨t.reverse ++ behind, rest⟩ : Cursor).nextIsAlphabetic = false :=
    Cursor.nextIsAlphabetic_of_stops hrest
  have hdigits := hrest.mono fun _ => Text.isVisible_of_isDigit
  simp only [callOn, List.map, Attempt.apply, Attempt.takeDay, Attempt.takeDatePart, Found.at,
    Cursor.digits?_append hread hdigits, hletter, Bool.false_eq_true, ↓reduceIte, hday]
  exact hcell.setDate _ _

theorem takes_yearOrTime_year {j year : Nat} (hcell : f.row.Holds e.columns i k cell)
    (hread : Decimal.read? t = some year) (hfirst : 1602 ≤ year) (hlast : year ≤ 9999)
    (hrest : Stops isVisible rest) :
    Takes e [callOn .yearOrTime [i, j]]
      t rest f (f.setDate i (fun d => { d with year := some (year : Int) }) cell) := by
  refine takes_of_apply fun behind => ?_
  simp only [callOn, List.map, Attempt.apply, Attempt.takeYearOrTime, Found.at,
    Cursor.yearOrTime?_year hread hfirst hlast hrest]
  exact hcell.setDate _ _

theorem takes_yearOrTime_time {date time : Nat} {l : ColumnKind} {timeCell : Cell} {now : Time}
    (hnow : now.second = 0 ∧ now.milli = 0) (hdate : f.row.Holds e.columns date k cell)
    (htime : (f.row.set date (.date { cell.dateParts with
      year := some e.today.year, yearIsGuess := true })).Holds e.columns time l timeCell)
    (hrest : Stops isVisible rest) :
    Takes e [callOn .yearOrTime [date, time]]
      (Decimal.padded 2 now.hour ++ ':' :: Decimal.padded 2 now.minute) rest f
      ((f.setDate date (fun d =>
        { d with year := some e.today.year, yearIsGuess := true }) cell).set time (.time now)) := by
  refine takes_of_apply fun behind => ?_
  have hread := Cursor.yearOrTime?_time hnow hrest behind
  rw [List.append_assoc, List.cons_append]
  simp only [callOn, List.map, Attempt.apply, Attempt.takeYearOrTime, Found.at, hread]
  have hset := hdate.setDate (fun d => { d with year := some e.today.year, yearIsGuess := true })
    ⟨(Decimal.padded 2 now.hour ++ ':' :: Decimal.padded 2 now.minute).reverse ++ behind, rest⟩
  simp only [Found.at] at hset
  rw [hset]
  exact Row.Holds.setTime (f := f.setDate date _ cell) htime now _

def nextChar (op : Operator) (x : Char) : Param :=
  .comparison (.state .nextChar) op (.text [x])

theorem eval?_nextChar (a : Attempt) (x : Char) :
    Param.eval? e a (nextChar .equal x) = some (a.place.ahead.head? == some x) ∧
      Param.eval? e a (nextChar .notEqual x) = some (a.place.ahead.head? != some x) := by
  have htake : (a.place.ahead.take 1 == [x]) = (a.place.ahead.head? == some x) := by
    cases a.place.ahead <;> simp
  constructor
  · exact congrArg some htake
  · exact congrArg (fun b => some !b) htake

theorem takes_require {x : Char} (hx : rest.head? ≠ some x) :
    Takes e [⟨.require, [nextChar .notEqual x]⟩] [] rest f f := by
  refine takes_of_apply fun behind => ?_
  have hne : (rest.head? != some x) = true := bne_iff_ne.2 hx
  simp [Attempt.apply, (eval?_nextChar _ x).2, Found.at, hne]

theorem takes_assign_isDir (x : Char) :
    Takes e [⟨.assign, [.operand (.column .isDir), nextChar .equal x]⟩] [] rest f
      { f with row := { f.row with isDir := rest.head? == some x } } := by
  refine takes_of_apply fun behind => ?_
  simp [Attempt.apply, Attempt.assign, (eval?_nextChar _ x).1, Found.at]

theorem takes_assign_isHidden (x : Char) :
    Takes e [⟨.assign, [.operand (.column .isHidden), nextChar .equal x]⟩] [] rest f
      { f with row := { f.row with isHidden := rest.head? == some x } } := by
  refine takes_of_apply fun behind => ?_
  simp [Attempt.apply, Attempt.assign, (eval?_nextChar _ x).1, Found.at]

theorem fails_year_whiteSpaces {n count : Nat} (hcell : f.row.Holds e.columns i k cell)
    (hread : Decimal.read? t = some n) (hdigits : Stops Char.isDigit rest)
    (hblanks : (rest.takeWhile isBlank).length < count) (more : List Call) (behind : Text) :
    applyAll e (callOn .year [i] ::
        ⟨.whiteSpaces, [.operand (.number count)]⟩ :: more) (f.at ⟨behind, t ++ rest⟩) =
      .fails f.languages := by
  have hcount : ¬ (count : Int) < 0 := by omega
  have hblank (g : Found) : (g.at ⟨t.reverse ++ behind, rest⟩).apply e
      ⟨.whiteSpaces, [.operand (.number count)]⟩ = .fails g.languages := by
    simp [Attempt.apply, Attempt.moveTo, Found.at, hcount,
      Cursor.forward?_eq_none (c := ⟨t.reverse ++ behind, rest⟩) hblanks]
  have hyear : (f.at ⟨behind, t ++ rest⟩).apply e (callOn .year [i]) =
        .fails f.languages ∨
      ∃ change, (f.at ⟨behind, t ++ rest⟩).apply e (callOn .year [i]) =
        .continues ((f.setDate i change cell).at ⟨t.reverse ++ behind, rest⟩) := by
    simp only [callOn, List.map, Attempt.apply, Attempt.takeYear, Attempt.takeDatePart, Found.at,
      Cursor.digits?_append hread hdigits]
    split
    · rename_i change _
      exact .inr ⟨change, hcell.setDate change _⟩
    · exact .inl rfl
  rcases hyear with hyear | ⟨change, hyear⟩
  · simp only [applyAll, hyear]
  · simp only [applyAll, hyear, hblank]
    rfl

end Takes

end Listing

end ListingRules
