import ListingRules.Proofs.Bytewise.Device
import ListingRules.Proofs.Bytewise.Link
import ListingRules.Proofs.Bytewise.Row
import ListingRules.Proofs.ColumnYears

namespace ListingRules.Bytewise

open Text (byteCount isLineEnd isSpace isVisible isBlank)
open Cursor (Walk Spans)
open Listing (Surroundings)

namespace Attempt

def moveTo (a : Attempt) : Option Nat → Checked Outcome
  | some i => .ok (.continues { a with offset := i })
  | none => .ok (.fails a.languages)

def takeToken (w : Window) (s : ColumnSet) (stop : Nat) (target : Option ColumnRef)
    (a : Attempt) : Checked Outcome := do
  if (← minus stop a.offset) = 0 then
    return .fails a.languages
  else
    store w s a.offset stop target { a with offset := stop }

def takeChars (w : Window) (s : ColumnSet) (n : Int) (target : Option ColumnRef)
    (a : Attempt) : Checked Outcome := do
  if n < 0 then
    return .fails a.languages
  else
    match ← w.forward (! isLineEnd ·) n.toNat a.offset with
    | none => return .fails a.languages
    | some i => store w s a.offset i target { a with offset := i }

def takeTo (w : Window) (s : ColumnSet) (inclusive : Bool) (wanted : Text)
    (target : Option ColumnRef) (a : Attempt) : Checked Outcome := do
  let stop ← w.lineEnd a.offset
  let line ← slice w.text a.offset stop
  match ← find wanted line with
  | none => return .fails a.languages
  | some (found, behind) =>
      let i ← w.move (a.offset + behind)
      store w s a.offset (if inclusive then i else a.offset + found) target
        { a with offset := i }

def takeNumber (w : Window) (s : ColumnSet) (positiveOnly : Bool)
    (read : Checked (Option (Int × Nat))) (target : ColumnRef) (a : Attempt) :
    Checked Outcome := do
  match ← read with
  | none => return .fails a.languages
  | some (n, i) =>
      if ← w.nextIsAlphabetic i then
        return .fails a.languages
      else
        setNumber s positiveOnly n target { a with offset := i }

def setMonth (w : Window) (s : ColumnSet) (month : Nat) (target : ColumnRef) (a : Attempt) :
    Checked Outcome := do
  if ← w.nextIsAlphabetic a.offset then
    return .fails a.languages
  else
    a.setDate s (fun cell => do return cell.setMonth (← asUnsigned month)) target

def takeMonth3 (w : Window) (s : ColumnSet) (names : Option Text) (target : ColumnRef)
    (a : Attempt) : Checked Outcome := do
  let rest ← sliceFrom w.text a.offset
  match prefixBytes? rest 3 with
  | none => return .fails a.languages
  | some size =>
      let word ← sliceTo rest size
      let read := match names with
        | some list => (MonthName.readShortFrom? list word).map (·, a.languages)
        | none => MonthName.readShort? word a.languages
      let i ← w.move (a.offset + size)
      match read with
      | none => return .fails a.languages
      | some (month, languages) => setMonth w s month target { a with offset := i, languages }

def takeMonthTxt (w : Window) (s : ColumnSet) (names : Option Text) (target : ColumnRef)
    (a : Attempt) : Checked Outcome := do
  let rest ← sliceFrom w.text a.offset
  let word ← sliceTo rest ((findByte? isSpace rest).getD (byteCount rest))
  let read := match names with
    | some list => (MonthName.readLongFrom? list word).map fun (m, n) => (m, n, a.languages)
    | none => MonthName.readLong? word a.languages
  match if word.isEmpty then none else read with
  | none => return .fails a.languages
  | some (month, length, languages) =>
      let i ← w.move (a.offset + offsetOf word length)
      setMonth w s month target { a with offset := i, languages }

def takeDatePart (w : Window) (s : ColumnSet)
    (f : Int → Checked (Option (Cell → Checked Cell))) (target : ColumnRef)
    (a : Attempt) : Checked Outcome := do
  match ← w.digits a.offset with
  | none => return .fails a.languages
  | some (n, i) =>
      if ← w.nextIsAlphabetic i then
        return .fails a.languages
      else
        match ← f n with
        | none => return .fails a.languages
        | some change => setDate s change target { a with offset := i }

def takeMonth (w : Window) (s : ColumnSet) : ColumnRef → Attempt → Checked Outcome :=
  takeDatePart w s fun n => .ok <|
    if 1 ≤ n ∧ n ≤ 12 then some fun cell => do return cell.setMonth (← asUnsigned n) else none

def takeDay (w : Window) (s : ColumnSet) : ColumnRef → Attempt → Checked Outcome :=
  takeDatePart w s fun n => .ok <|
    if 1 ≤ n ∧ n ≤ 31 then some fun cell => do return cell.setDay (← asUnsigned n) else none

def fullYear (n : Int) : Checked Int := do
  let year ←
    (if 0 ≤ n ∧ n ≤ 79 then asNumber (n + 2000)
    else if 80 ≤ n ∧ n ≤ 999 then asNumber (n + 1900)
    else .ok n)
  return if year = 1601 then 1602 else year

def setYear (year : Int) (cell : Cell) : Checked Cell := do
  return cell.setYear (← asSigned year)

def takeYear (w : Window) (s : ColumnSet) : ColumnRef → Attempt → Checked Outcome :=
  takeDatePart w s fun n => do
    let year ← fullYear n
    return if 1602 ≤ year ∧ year ≤ 9999 then some (setYear year) else none

def guessYear (year : Int) (cell : Cell) : Checked Cell := do
  return cell.guessYear (← asSigned year)

def takeTime (w : Window) (s : ColumnSet) (target : ColumnRef) (a : Attempt) :
    Checked Outcome := do
  match ← w.time a.offset with
  | none => return .fails a.languages
  | some (t, i) => setTime s t target { a with offset := i }

def takeYearOrTime (w : Window) (e : Surroundings) (date time : ColumnRef) (a : Attempt) :
    Checked Outcome := do
  match ← w.yearOrTime a.offset with
  | none => return .fails a.languages
  | some (.inl year, i) => setDate e.columns (setYear year) date { a with offset := i }
  | some (.inr t, i) =>
      let o ← setDate e.columns (guessYear e.today.year) date { a with offset := i }
      o.andThen (setTime e.columns t time)

def takeLink (w : Window) (s : ColumnSet) (name target : ColumnRef) (a : Attempt) :
    Checked Outcome := do
  match ← w.link a.offset with
  | none => return .fails a.languages
  | some (l, i) =>
      let a := { a with offset := i, row := { a.row with isDir := l.isDir } }
      let o ← a.setText s l.name name
      o.andThen fun a =>
        match l.target with
        | none => .ok (.continues a)
        | some t => a.setText s t target

def takeDevice (w : Window) (s : ColumnSet) (target : ColumnRef) (a : Attempt) :
    Checked Outcome := do
  match ← w.device a.offset with
  | none => return .fails a.languages
  | some i => store w s a.offset i (some target) { a with offset := i }

def changeText (w : Window) (s : ColumnSet) (f : Text → Checked (Option Text))
    (target : ColumnRef) (a : Attempt) : Checked Outcome := do
  let t ← textOf w a (.column target)
  match ← f t with
  | none => return .fails a.languages
  | some t => a.setText s t target

def dropEnd (n : Int) (t : Text) : Checked (Option Text) := do
  if n < 0 ∨ t.length < n then
    return none
  else
    let kept ← minus t.length n.toNat
    let t ← sliceTo t (offsetOf t kept)
    return some t

def skipSpaces (w : Window) (e : Surroundings) (a : Attempt) : Checked Outcome := do
  let i ← w.skipWhile isSpace a.offset
  if (← minus i a.offset) = 0 then
    return .fails a.languages
  else if i = byteCount w.text then
    return if e.incomplete then .skipsRest { a with offset := i } else .fails a.languages
  else
    return .continues { a with offset := i }

def setFlag (w : Window) (e : Surroundings) (value : ListingRules.Param) (f : Bool → Row)
    (a : Attempt) : Checked Outcome := do
  return .continues { a with row := f (← eval w e a value) }

def assign (w : Window) (e : Surroundings) (target : ColumnRef) (value : ListingRules.Param)
    (a : Attempt) : Checked Outcome :=
  match target, value with
  | .isDir, _ => a.setFlag w e value fun b => { a.row with isDir := b }
  | .isHidden, _ => a.setFlag w e value fun b => { a.row with isHidden := b }
  | .isLink, _ => a.setFlag w e value fun b => { a.row with isLink := b }
  | c, .operand o =>
      match e.columns.operandType? c with
      | some .text => do a.setText e.columns (← textOf w a o) c
      | some .number => do
          let n ← numberOf a o
          a.modify e.columns (fun _ cell => .ok (some (cell.setNumber n))) c
      | some .date => do
          let (day, month, year) ← dateOf a o
          a.setDate e.columns (fun cell => .ok (cell.setDate day month year)) c
      | some .time => do a.setTime e.columns (← timeOf a o) c
      | _ => .error .mistyped
  | _, _ => .error .mistyped

def apply (w : Window) (e : Surroundings) (call : Call) (a : Attempt) : Checked Outcome :=
  let s := e.columns
  match call.function, call.params with
  | .skipWhiteSpaces, [] => do
      return .continues { a with offset := ← w.skipWhile isBlank a.offset }
  | .skipToNumber, [] => do
      return .continues { a with
        offset := ← w.skipWhile (fun c => !c.isDigit && !isLineEnd c) a.offset }
  | .whiteSpaces, [] => do a.takeToken w s (← w.skipWhile isBlank a.offset) none
  | .whiteSpaces, [.operand (.number n)] => do
      if n < 0 then return .fails a.languages
      else return ← a.moveTo (← w.forward isBlank n.toNat a.offset)
  | .whiteSpacesAndLineEnds, [] => a.skipSpaces w e
  | .restOfLine, [] => do a.takeToken w s (← w.move (← w.lineEnd a.offset)) none
  | .restOfLine, [.operand (.column c)] => do
      a.takeToken w s (← w.move (← w.lineEnd a.offset)) (some c)
  | .word, [] => do a.takeToken w s (← w.skipWhile isVisible a.offset) none
  | .word, [.operand (.column c)] => do
      a.takeToken w s (← w.skipWhile isVisible a.offset) (some c)
  | .number, [.operand (.column c)] => a.takeNumber w s false (w.signedDigits a.offset) c
  | .positiveNumber, [.operand (.column c)] => a.takeNumber w s true (w.signedDigits a.offset) c
  | .numberWithSeparators, [.operand (.column c), .operand o] => do
      let separators ← textOf w a o
      a.takeNumber w s false (w.separatedDigits separators a.offset) c
  | .month3, [.operand (.column c)] => a.takeMonth3 w s none c
  | .month3, [.operand (.column c), .operand (.text names)] => a.takeMonth3 w s names c
  | .monthTxt, [.operand (.column c)] => a.takeMonthTxt w s none c
  | .monthTxt, [.operand (.column c), .operand (.text names)] => a.takeMonthTxt w s names c
  | .month, [.operand (.column c)] => a.takeMonth w s c
  | .day, [.operand (.column c)] => a.takeDay w s c
  | .year, [.operand (.column c)] => a.takeYear w s c
  | .time, [.operand (.column c)] => a.takeTime w s c
  | .yearOrTime, [.operand (.column date), .operand (.column time)] =>
      a.takeYearOrTime w e date time
  | .all, [.operand (.number n)] => a.takeChars w s n none
  | .all, [.operand (.column c), .operand (.number n)] => a.takeChars w s n (some c)
  | .allTo, [.operand o] => do a.takeTo w s true (← textOf w a o) none
  | .allTo, [.operand (.column c), .operand o] => do
      a.takeTo w s true (← textOf w a o) (some c)
  | .allUpTo, [.operand (.column c), .operand o] => do
      a.takeTo w s false (← textOf w a o) (some c)
  | .unixLink, [_, .operand (.column name), .operand (.column link)] => a.takeLink w s name link
  | .unixDevice, [.operand (.column c)] => a.takeDevice w s c
  | .require, [p] => do
      return if ← eval w e a p then .continues a else .fails a.languages
  | .assign, [.operand (.column c), value] => a.assign w e c value
  | .cutWhiteSpacesEnd, [.operand (.column c)] =>
      a.changeText w s (fun t => .ok (some (Text.trimEnd t))) c
  | .cutWhiteSpacesStart, [.operand (.column c)] =>
      a.changeText w s (fun t => .ok (some (Text.trimStart t))) c
  | .cutWhiteSpaces, [.operand (.column c)] =>
      a.changeText w s (fun t => .ok (some (Text.trimEnd (Text.trimStart t)))) c
  | .back, [.operand (.number n)] => do
      if n < 0 then return .fails a.languages
      else return ← a.moveTo (← w.backward n.toNat a.offset)
  | .addStringToColumn, [.operand (.column c), .operand o] => do
      let more ← textOf w a o
      a.changeText w s (fun t => .ok (some (t ++ more))) c
  | .cutEndOfString, [.operand (.column c), .operand (.number n)] =>
      a.changeText w s (dropEnd n) c
  | _, _ => .error .mistyped

end Attempt

section Agreement

variable {w : Window} {e : Surroundings} {s : ColumnSet} {a : Listing.Attempt} {c d : Cursor}
  {t : Text} {l : Languages} {target : ColumnRef} {stored : Option ColumnRef}

theorem moveTo_agrees (c : Option Cursor) :
    (ofAttempt a).moveTo (c.map Cursor.offset) = ofOutcome (a.moveTo c) := by
  cases c <;> rfl

theorem store_spans (h : w.Sees c) (hs : Spans c d t) (hrow : a.row.Typed s)
    (hc : ∀ c ∈ stored, s.operandType? c = some .text) :
    (ofAttempt { a with place := d }).store w s c.offset d.offset stored =
      ofOutcome ({ a with place := d }.store s t stored) :=
  store_agrees (a := { a with place := d }) (h.slice hs) hrow hc

theorem takeToken_agrees {p : Char → Bool} (h : w.Sees a.place) (hrow : a.row.Typed s)
    (hc : ∀ c ∈ stored, s.operandType? c = some .text) :
    (ofAttempt a).takeToken w s (a.place.skipWhile p).offset stored =
      ofOutcome (a.takeToken s p stored) := by
  have hspan := Cursor.spans_skipWhile p a.place
  simp only [Attempt.takeToken, Listing.Attempt.takeToken, ofAttempt, hspan.offset_eq]
  rw [minus_eq_ok (Nat.le_add_right _ _), ok_bind, Nat.add_sub_cancel_left]
  rw [← hspan.offset_eq]
  cases htoken : a.place.ahead.takeWhile p with
  | nil => rfl
  | cons x token =>
      have hpos := x.utf8Size_pos
      rw [htoken] at hspan
      rw [if_neg (by simp only [Text.byteCount_cons]; omega)]
      exact store_spans h hspan hrow hc

theorem takeChars_agrees (n : Int) (h : w.Sees a.place) (hrow : a.row.Typed s)
    (hc : ∀ c ∈ stored, s.operandType? c = some .text) :
    (ofAttempt a).takeChars w s n stored = ofOutcome (a.takeChars s n stored) := by
  simp only [Attempt.takeChars, Listing.Attempt.takeChars]
  split
  · rfl
  · simp only [ofAttempt, h.forward, ok_bind]
    cases hd : Cursor.forward? (! isLineEnd ·) n.toNat a.place with
    | none => rfl
    | some d => exact store_spans h (Cursor.spans_forward? hd) hrow hc

theorem takeTo_agrees (inclusive : Bool) (wanted : Text) (h : w.Sees a.place)
    (hrow : a.row.Typed s) (hc : ∀ c ∈ stored, s.operandType? c = some .text) :
    (ofAttempt a).takeTo w s inclusive wanted stored =
      ofOutcome (a.takeTo s inclusive wanted stored) := by
  have hline := h.slice (Cursor.spans_skipWhile (! isLineEnd ·) a.place)
  simp only [Attempt.takeTo, Listing.Attempt.takeTo, ofAttempt, h.lineEnd, hline, ok_bind, find_eq,
    Cursor.restOfLine]
  cases ho : Text.find? wanted (a.place.ahead.takeWhile (! isLineEnd ·)) with
  | none => rfl
  | some o =>
      have hahead : a.place.ahead =
          o.before ++ o.found ++ (o.after ++ a.place.ahead.dropWhile (! isLineEnd ·)) := by
        rw [← List.append_assoc, (Text.append_of_find? ho).1, List.takeWhile_append_dropWhile]
      have hpast := Cursor.spans_append hahead
      have hbefore := Cursor.spans_append (hahead.trans (List.append_assoc _ _ _))
      have hmove := (h.walk (Cursor.walk_advance (o.before ++ o.found).length a.place)).move
      simp only [Option.map_some, ← hpast.offset_eq, ← hbefore.offset_eq, hmove, ok_bind]
      refine store_agrees (a := { a with place := a.place.advance (o.before ++ o.found).length })
        ?_ hrow hc
      split
      · exact h.slice hpast
      · exact h.slice hbefore

theorem takeNumber_agrees {read : Option (Int × Cursor)} (positiveOnly : Bool)
    (h : ∀ n c, read = some (n, c) → w.Sees c) (hrow : a.row.Typed s)
    (hc : s.operandType? target = some .number) :
    (ofAttempt a).takeNumber w s positiveOnly (.ok (Window.atOffset read)) target =
      ofOutcome (a.takeNumber s positiveOnly read target) := by
  cases read with
  | none => rfl
  | some r =>
      obtain ⟨n, c⟩ := r
      simp only [Attempt.takeNumber, Listing.Attempt.takeNumber, Window.atOffset, Option.map_some,
        ok_bind, (h n c rfl).nextIsAlphabetic]
      split
      · rfl
      · exact setNumber_agrees (a := { a with place := c }) positiveOnly n hrow hc

theorem setMonth_agrees {month : Nat} (h : w.Sees a.place) (hm : month ≤ 12)
    (hrow : a.row.Typed s) (hc : s.operandType? target = some .date) :
    (ofAttempt a).setMonth w s month target =
      ofOutcome (if a.place.nextIsAlphabetic then .fails a.languages
        else a.setDate s (fun d => { d with month := some month }) target) := by
  simp only [Attempt.setMonth, ofAttempt, h.nextIsAlphabetic, ok_bind]
  split
  · rfl
  · refine setDate_agrees (fun d => ?_) hrow hc
    rw [asUnsigned_eq_ok (Nat.le_trans hm (by decide)), ok_bind, pure_eq_ok]
    rfl

theorem takeMonth3_agrees (names : Option Text) (h : w.Sees a.place) (hrow : a.row.Typed s)
    (hc : s.operandType? target = some .date) :
    (ofAttempt a).takeMonth3 w s names target = ofOutcome (a.takeMonth3 s names target) := by
  have hword : sliceTo a.place.ahead (byteCount (a.place.ahead.take 3)) =
      .ok (a.place.ahead.take 3) :=
    sliceTo_eq_ok_iff.2 ⟨a.place.ahead.drop 3, (List.take_append_drop 3 _).symm, rfl⟩
  have hsees := h.walk (Cursor.walk_advance 3 a.place)
  simp only [Attempt.takeMonth3, Listing.Attempt.takeMonth3, ofAttempt, h.sliceFrom, ok_bind,
    prefixBytes?_eq]
  by_cases hlen : (a.place.ahead.take 3).length = 3
  · simp only [if_pos hlen, hword, ok_bind, ← (Cursor.spans_advance 3 a.place).offset_eq,
      hsees.move]
    have hset (month : Nat) (left : Languages) (hm : month ≤ 12) := setMonth_agrees (s := s)
      (a := { a with place := a.place.advance 3, languages := left }) hsees hm hrow hc
    cases names with
    | none =>
        cases hread : MonthName.readShort? (a.place.ahead.take 3) a.languages with
        | none => rfl
        | some read => exact hset read.1 read.2 (MonthName.le_of_readShort? hread)
    | some list =>
        dsimp only
        cases hread : MonthName.readShortFrom? list (a.place.ahead.take 3) with
        | none => rfl
        | some month => exact hset month a.languages (MonthName.le_of_readShortFrom? hread)
  · simp only [if_neg hlen]
    rfl

theorem offset_advance_word {n : Nat} (hn : n ≤ (c.ahead.takeWhile isVisible).length) :
    c.offset + offsetOf (c.ahead.takeWhile isVisible) n = (c.advance n).offset := by
  have hahead : c.ahead.take n = (c.ahead.takeWhile isVisible).take n := by
    obtain ⟨u, hu⟩ := List.takeWhile_prefix isVisible (l := c.ahead)
    rw [← List.take_append_of_le_length hn, hu]
  rw [offsetOf_eq, ← hahead, (Cursor.spans_advance n c).offset_eq]

theorem takeMonthTxt_agrees (names : Option Text) (h : w.Sees a.place) (hrow : a.row.Typed s)
    (hc : s.operandType? target = some .date) :
    (ofAttempt a).takeMonthTxt w s names target = ofOutcome (a.takeMonthTxt s names target) := by
  have hword : sliceTo a.place.ahead
      ((findByte? isSpace a.place.ahead).getD (byteCount a.place.ahead)) =
        .ok (a.place.ahead.takeWhile isVisible) := sliceTo_findByte? _ _
  have hset (month length : Nat) (left : Languages)
      (hle : month ≤ 12 ∧ length ≤ (a.place.ahead.takeWhile isVisible).length) :
      (do
        let i ← w.move (a.place.offset + offsetOf (a.place.ahead.takeWhile isVisible) length)
        Attempt.setMonth w s month target ⟨i, ofRow a.row, left⟩) =
          ofOutcome (if (a.place.advance length).nextIsAlphabetic then .fails left
            else Listing.Attempt.setDate s (fun d => { d with month := some month }) target
              ⟨a.place.advance length, a.row, left⟩) := by
    have hsees := h.walk (Cursor.walk_advance length a.place)
    rw [offset_advance_word hle.2, hsees.move, ok_bind]
    exact setMonth_agrees (a := ⟨a.place.advance length, a.row, left⟩) hsees hle.1 hrow hc
  simp only [Attempt.takeMonthTxt, Listing.Attempt.takeMonthTxt, ofAttempt, h.sliceFrom, ok_bind,
    hword]
  cases (a.place.ahead.takeWhile isVisible).isEmpty with
  | true => rfl
  | false =>
      cases names with
      | none =>
          cases hread : MonthName.readLong? (a.place.ahead.takeWhile isVisible) a.languages with
          | none => rfl
          | some read =>
              exact hset read.1 read.2.1 read.2.2 (MonthName.le_of_readLong? hread)
      | some list =>
          dsimp only
          cases hread : MonthName.readLongFrom? list (a.place.ahead.takeWhile isVisible) with
          | none => rfl
          | some read => exact hset read.1 read.2 a.languages (MonthName.le_of_readLongFrom? hread)

theorem takeDatePart_agrees {f : Int → Checked (Option (Cell → Checked Cell))}
    {P : Nat → Prop} [DecidablePred P] {k : Nat → Cell → Checked Cell}
    {g : Nat → Listing.DateParts → Listing.DateParts}
    (hf : ∀ n : Nat, f n = .ok (if P n then some (k n) else none))
    (hg : ∀ n, P n → ∀ d, k n (ofCell (.date d)) = .ok (ofCell (.date (g n d))))
    (h : w.Sees a.place) (hrow : a.row.Typed s) (hc : s.operandType? target = some .date) :
    (ofAttempt a).takeDatePart w s f target =
      ofOutcome (a.takeDatePart s (fun n => if P n then some (g n) else none) target) := by
  simp only [Attempt.takeDatePart, Listing.Attempt.takeDatePart, ofAttempt, h.digits, ok_bind]
  cases hd : a.place.digits? with
  | none => rfl
  | some r =>
      obtain ⟨n, c⟩ := r
      have hsees := h.walk (Cursor.walk_digits? hd)
      simp only [Window.numberAt, Option.map_some, hsees.nextIsAlphabetic, ok_bind, hf]
      cases c.nextIsAlphabetic with
      | true => rfl
      | false =>
          by_cases hn : P n
          · simp only [if_pos hn]
            exact setDate_agrees (a := { a with place := c }) (hg n hn) hrow hc
          · simp only [if_neg hn]
            rfl

theorem takeSmallPart_agrees {most : Nat} {set : Nat → Cell → Cell}
    {g : Nat → Listing.DateParts → Listing.DateParts} (hmost : most ≤ 4294967295)
    (hset : ∀ n d, set n (ofCell (.date d)) = ofCell (.date (g n d)))
    (h : w.Sees a.place) (hrow : a.row.Typed s) (hc : s.operandType? target = some .date) :
    (ofAttempt a).takeDatePart w s (fun n => .ok <|
        if 1 ≤ n ∧ n ≤ most then some fun cell => do return set (← asUnsigned n) cell else none)
      target =
      ofOutcome (a.takeDatePart s (fun n => if 1 ≤ n ∧ n ≤ most then some (g n) else none)
        target) := by
  refine takeDatePart_agrees (fun n => congrArg Except.ok
    (ite_congr (propext (by omega)) (fun _ => rfl) fun _ => rfl)) (fun n hn d => ?_) h hrow hc
  rw [asUnsigned_eq_ok (by omega), ok_bind, pure_eq_ok, hset]

theorem takeMonth_agrees (h : w.Sees a.place) (hrow : a.row.Typed s)
    (hc : s.operandType? target = some .date) :
    (ofAttempt a).takeMonth w s target = ofOutcome (a.takeMonth s target) :=
  takeSmallPart_agrees (by decide) (fun _ _ => rfl) h hrow hc

theorem takeDay_agrees (h : w.Sees a.place) (hrow : a.row.Typed s)
    (hc : s.operandType? target = some .date) :
    (ofAttempt a).takeDay w s target = ofOutcome (a.takeDay s target) :=
  takeSmallPart_agrees (by decide) (fun _ _ => rfl) h hrow hc

theorem fullYear_eq (n : Nat) :
    Attempt.fullYear n = .ok (Listing.Attempt.fullYear n : Int) := by
  have hmax : Decimal.maxNumber = 9223372036854775807 := by decide
  have hsum : (if 0 ≤ (n : Int) ∧ (n : Int) ≤ 79 then asNumber ((n : Int) + 2000)
      else if 80 ≤ (n : Int) ∧ (n : Int) ≤ 999 then asNumber ((n : Int) + 1900) else .ok n) =
        .ok ((if n < 80 then n + 2000 else if n < 1000 then n + 1900 else n : Nat) : Int) := by
    by_cases h₁ : n < 80
    · rw [if_pos (by omega), if_pos h₁, asNumber_eq_ok (by omega) (by omega)]
      rfl
    · rw [if_neg (by omega), if_neg h₁]
      by_cases h₂ : n < 1000
      · rw [if_pos (by omega), if_pos h₂, asNumber_eq_ok (by omega) (by omega)]
        rfl
      · rw [if_neg (by omega), if_neg h₂]
  rw [Attempt.fullYear, hsum, ok_bind, pure_eq_ok, Listing.Attempt.fullYear]
  generalize (if n < 80 then n + 2000 else if n < 1000 then n + 1900 else n) = year
  by_cases hy : year = 1601
  · rw [hy]
    rfl
  · rw [if_neg hy, if_neg (by omega)]

theorem setYear_eq_ok {year : Int} (hl : -2147483648 ≤ year) (hm : year ≤ 2147483647)
    (d : Listing.DateParts) :
    Attempt.setYear year (ofCell (.date d)) =
      .ok (ofCell (.date { d with year := some year })) := by
  rw [Attempt.setYear, asSigned, within_eq_ok hl hm, ok_bind, pure_eq_ok]
  rfl

theorem guessYear_eq_ok {year : Int} (hl : -2147483648 ≤ year) (hm : year ≤ 2147483647)
    (d : Listing.DateParts) :
    Attempt.guessYear year (ofCell (.date d)) =
      .ok (ofCell (.date { d with year := some year, yearIsGuess := true })) := by
  rw [Attempt.guessYear, asSigned, within_eq_ok hl hm, ok_bind, pure_eq_ok]
  rfl

theorem takeYear_agrees (h : w.Sees a.place) (hrow : a.row.Typed s)
    (hc : s.operandType? target = some .date) :
    (ofAttempt a).takeYear w s target = ofOutcome (a.takeYear s target) := by
  refine takeDatePart_agrees (k := fun n => Attempt.setYear (Listing.Attempt.fullYear n))
    (fun n => ?_) (fun n hn d => ?_) h hrow hc
  · rw [fullYear_eq, ok_bind, pure_eq_ok]
    exact congrArg Except.ok (ite_congr (propext (by omega)) (fun _ => rfl) fun _ => rfl)
  · exact setYear_eq_ok (by omega) (by omega) d

theorem takeTime_agrees (h : w.Sees a.place) (hrow : a.row.Typed s)
    (hc : s.operandType? target = some .time) :
    (ofAttempt a).takeTime w s target = ofOutcome (a.takeTime s target) := by
  simp only [Attempt.takeTime, Listing.Attempt.takeTime, ofAttempt, h.time, ok_bind]
  cases a.place.time? with
  | none => rfl
  | some r => exact setTime_agrees (a := { a with place := r.2 }) r.1 hrow hc

theorem takeYearOrTime_agrees {date time : ColumnRef} (h : w.Sees a.place)
    (hrow : a.row.Typed e.columns) (hd : e.columns.operandType? date = some .date)
    (ht : e.columns.operandType? time = some .time) :
    (ofAttempt a).takeYearOrTime w e date time = ofOutcome (a.takeYearOrTime e date time) := by
  simp only [Attempt.takeYearOrTime, Listing.Attempt.takeYearOrTime, ofAttempt, h.yearOrTime,
    ok_bind]
  cases hr : a.place.yearOrTime? with
  | none => rfl
  | some r =>
      obtain ⟨y | t, c⟩ := r
      · have hy := Cursor.year_le_of_yearOrTime? hr
        exact setDate_agrees (a := { a with place := c })
          (fun d => setYear_eq_ok (by omega) (by omega) d) hrow hd
      · obtain ⟨hl, hm, -⟩ := e.today.isDay
        refine andThen_agrees (setDate_agrees (a := { a with place := c })
          (fun d => guessYear_eq_ok (by omega) (by omega) d) hrow hd) fun b hb => ?_
        have hset := Listing.Attempt.ensures_setDate (a := { a with place := c }) hrow.keeps_nothing
          hd fun d => Listing.Cell.filled_year d e.today.year true
        rw [hb] at hset
        exact setTime_agrees t hset.typed ht

theorem takeLink_agrees {name : ColumnRef} (h : w.Sees a.place) (hrow : a.row.Typed s)
    (hn : s.operandType? name = some .text) (hc : s.operandType? target = some .text) :
    (ofAttempt a).takeLink w s name target = ofOutcome (a.takeLink s name target) := by
  simp only [Attempt.takeLink, Listing.Attempt.takeLink, ofAttempt, h.link, ok_bind]
  cases Listing.Link.ofLine? a.place.restOfLine with
  | none => rfl
  | some l =>
      have hrow : { a.row with isDir := l.isDir }.Typed s := ⟨hrow.length, hrow.fits⟩
      refine andThen_agrees (setText_agrees (a := { a with
        place := a.place.skipWhile (! isLineEnd ·), row := { a.row with isDir := l.isDir } })
          l.name hrow hn) fun b hb => ?_
      have hset := Listing.Attempt.ensures_setText (x := l.name) (a := { a with
        place := a.place.skipWhile (! isLineEnd ·), row := { a.row with isDir := l.isDir } })
          hrow.keeps_nothing hn
      rw [hb] at hset
      cases l.target with
      | none => rfl
      | some t => exact setText_agrees t hset.typed hc

theorem takeDevice_agrees (h : w.Sees a.place) (hrow : a.row.Typed s)
    (hc : s.operandType? target = some .text) :
    (ofAttempt a).takeDevice w s target = ofOutcome (a.takeDevice s target) := by
  simp only [Attempt.takeDevice, Listing.Attempt.takeDevice, ofAttempt, h.device, ok_bind]
  cases hd : a.place.device? with
  | none => rfl
  | some d =>
      have hstored : ∀ c ∈ some target, s.operandType? c = some .text := by simpa using hc
      exact store_spans h (onLine_device? hd).spans hrow hstored

theorem changeText_agrees {f : Text → Checked (Option Text)} {g : Text → Option Text}
    (hfg : ∀ t, f t = .ok (g t)) (h : w.Sees a.place) (hrow : a.row.Typed s)
    (hc : s.operandType? target = some .text)
    (hv : ∃ t, Listing.textOf? a (.column target) = some t) :
    (ofAttempt a).changeText w s f target = ofOutcome (a.changeText s g target) := by
  obtain ⟨t, ht⟩ := hv
  simp only [Attempt.changeText, Listing.Attempt.changeText, textOf_agrees h ht, ht, ok_bind, hfg]
  cases g t with
  | none => rfl
  | some t => exact setText_agrees t hrow hc

theorem dropEnd_eq (n : Int) (t : Text) :
    Attempt.dropEnd n t = .ok (Listing.Attempt.dropEnd? n t) := by
  simp only [Attempt.dropEnd, Listing.Attempt.dropEnd?]
  split
  · rfl
  · rename_i hn
    have hkept : sliceTo t (offsetOf t (t.length - n.toNat)) =
        .ok (t.take (t.length - n.toNat)) := by
      rw [offsetOf_eq]
      exact sliceTo_eq_ok_iff.2 ⟨_, (List.take_append_drop _ t).symm, rfl⟩
    rw [minus_eq_ok (by omega), ok_bind, hkept, ok_bind, pure_eq_ok]

theorem skipSpaces_agrees (h : w.Sees a.place) :
    (ofAttempt a).skipSpaces w e = ofOutcome (a.skipSpaces e) := by
  have hspan := Cursor.spans_skipWhile isSpace a.place
  simp only [Attempt.skipSpaces, Listing.Attempt.skipSpaces, ofAttempt, h.skipWhile, ok_bind]
  have hmoved : minus (a.place.skipWhile isSpace).offset a.place.offset =
      .ok (byteCount (a.place.ahead.takeWhile isSpace)) := by
    rw [hspan.offset_eq, minus_eq_ok (Nat.le_add_right _ _), Nat.add_sub_cancel_left]
  have hend : (a.place.skipWhile isSpace).offset = byteCount w.text ↔
      (a.place.skipWhile isSpace).ahead = [] := by
    have htext := (h.walk (Cursor.walk_skipWhile isSpace a.place)).text_eq
    rw [htext, Text.byteCount_append, ← Window.offset_eq, ← Text.byteCount_eq_zero_iff]
    omega
  have hnone : (!a.place.ahead.head?.any isSpace) = true ↔
      a.place.ahead.takeWhile isSpace = [] := by
    cases a.place.ahead with
    | nil => simp
    | cons x t => cases hx : isSpace x <;> simp [hx]
  simp only [hmoved, ok_bind, hend, hnone, Text.byteCount_eq_zero_iff, List.isEmpty_iff]
  split
  · rfl
  · split
    · cases e.incomplete <;> rfl
    · rfl

theorem setFlag_agrees {value : ListingRules.Param} {f : Bool → Row} {g : Bool → Listing.Row}
    (hfg : ∀ b, f b = ofRow (g b)) (h : w.Sees a.place)
    (hv : ∃ b, Listing.Param.eval? e a value = some b) :
    (ofAttempt a).setFlag w e value f =
      ofOutcome (match Listing.Param.eval? e a value with
        | some b => .continues { a with row := g b }
        | none => .stuck) := by
  obtain ⟨b, hb⟩ := hv
  rw [Attempt.setFlag, eval_agrees h hb, hb, ok_bind, hfg]
  rfl

theorem assign_agrees {value : ListingRules.Param} {t : OperandType} (h : w.Sees a.place)
    (hrow : a.row.Typed e.columns) (hc : e.columns.operandType? target = some t)
    (hv : Listing.Provides e a value t) :
    (ofAttempt a).assign w e target value = ofOutcome (a.assign e target value) := by
  cases target with
  | isDir =>
      cases hc
      exact setFlag_agrees (fun _ => rfl) h (Listing.exists_eval? hv)
  | isHidden =>
      cases hc
      exact setFlag_agrees (fun _ => rfl) h (Listing.exists_eval? hv)
  | isLink =>
      cases hc
      exact setFlag_agrees (fun _ => rfl) h (Listing.exists_eval? hv)
  | declared i =>
      cases value with
      | comparison l op r => rfl
      | operand o =>
          simp only [Attempt.assign, Listing.Attempt.assign, hc]
          cases t with
          | boolean => rfl
          | text =>
              obtain ⟨x, hx⟩ := hv
              rw [textOf_agrees h hx, ok_bind, hx]
              exact setText_agrees x hrow hc
          | number =>
              obtain ⟨n, hn⟩ := hv
              rw [numberOf_agrees hn, ok_bind, hn]
              refine modify_agrees (f := fun _ cell => .ok (some (cell.setNumber n)))
                (g := fun _ _ => some (.number n)) (fun _ cell hfits => ?_) hrow hc
              rw [setNumber_ofCell hfits]
              rfl
          | date =>
              obtain ⟨⟨day, month, year⟩, hd⟩ := hv
              rw [dateOf_agrees hd, ok_bind, hd]
              exact setDate_agrees (f := fun cell => .ok (cell.setDate day month year))
                (g := fun d => { d with day, month, year }) (fun _ => rfl) hrow hc
          | time =>
              obtain ⟨x, hx⟩ := hv
              rw [timeOf_agrees hx, ok_bind, hx]
              exact setTime_agrees x hrow hc

theorem takeWhile_agrees {p : Char → Bool} (h : w.Sees a.place) (hrow : a.row.Typed s)
    (hc : ∀ c ∈ stored, s.operandType? c = some .text) :
    (do (ofAttempt a).takeToken w s (← w.skipWhile p a.place.offset) stored) =
      ofOutcome (a.takeToken s p stored) := by
  rw [h.skipWhile, ok_bind]
  exact takeToken_agrees h hrow hc

theorem takeLine_agrees (h : w.Sees a.place) (hrow : a.row.Typed s)
    (hc : ∀ c ∈ stored, s.operandType? c = some .text) :
    (do (ofAttempt a).takeToken w s (← w.move (← w.lineEnd a.place.offset)) stored) =
      ofOutcome (a.takeToken s (! isLineEnd ·) stored) := by
  rw [h.lineEnd, ok_bind, (h.walk (Cursor.walk_skipWhile _ _)).move, ok_bind]
  exact takeToken_agrees h hrow hc

theorem takeToText_agrees {o : Operand} (inclusive : Bool) (h : w.Sees a.place)
    (hrow : a.row.Typed s) (ho : ∃ t, Listing.textOf? a o = some t)
    (hc : ∀ c ∈ stored, s.operandType? c = some .text) :
    (do (ofAttempt a).takeTo w s inclusive (← textOf w (ofAttempt a) o) stored) =
      ofOutcome ((Listing.textOf? a o).elim .stuck fun t => a.takeTo s inclusive t stored) := by
  obtain ⟨t, ht⟩ := ho
  rw [textOf_agrees h ht, ht, ok_bind]
  exact takeTo_agrees inclusive t h hrow hc

theorem takeSignedDigits_agrees (positiveOnly : Bool) (h : w.Sees a.place) (hrow : a.row.Typed s)
    (hc : s.operandType? target = some .number) :
    (ofAttempt a).takeNumber w s positiveOnly (w.signedDigits a.place.offset) target =
      ofOutcome (a.takeNumber s positiveOnly a.place.signedDigits? target) := by
  rw [h.signedDigits]
  exact takeNumber_agrees positiveOnly (fun n c hd => h.walk (Cursor.walk_signedDigits? hd)) hrow hc

theorem moveBy_agrees {n : Int} {read : Checked (Option Nat)} {c : Option Cursor}
    (hread : read = .ok (c.map Cursor.offset)) :
    (if n < 0 then return .fails a.languages else return ← (ofAttempt a).moveTo (← read)) =
      ofOutcome (if n < 0 then .fails a.languages else a.moveTo c) := by
  split
  · rfl
  · rw [hread, ok_bind, moveTo_agrees]

theorem require_agrees {p : ListingRules.Param} {b : Bool} (h : w.Sees a.place)
    (hb : Listing.Param.eval? e a p = some b) :
    (ofAttempt a).apply w e ⟨.require, [p]⟩ = ofOutcome (a.apply e ⟨.require, [p]⟩) := by
  simp only [Attempt.apply, Listing.Attempt.apply, eval_agrees h hb, hb]
  cases b <;> rfl

theorem addString_agrees {o : Operand} (h : w.Sees a.place) (hrow : a.row.Typed e.columns)
    (hc : e.columns.operandType? target = some .text)
    (hv : ∃ t, Listing.textOf? a (.column target) = some t)
    (ho : ∃ t, Listing.textOf? a o = some t) :
    (ofAttempt a).apply w e ⟨.addStringToColumn, [.operand (.column target), .operand o]⟩ =
      ofOutcome (a.apply e ⟨.addStringToColumn, [.operand (.column target), .operand o]⟩) := by
  obtain ⟨more, hmore⟩ := ho
  simp only [Attempt.apply, Listing.Attempt.apply, textOf_agrees h hmore, hmore, ok_bind]
  exact changeText_agrees (fun _ => rfl) h hrow hc hv

theorem apply_agrees {call : Call} {eff : Effect} {v : Written} (h : w.Sees a.place)
    (haccepted : call.Accepted e.columns eff) (hk : a.row.Keeps e.columns v)
    (hcompare : call.ComparesWell e.columns v)
    (hreads : ∀ r ∈ eff.reads, v.readable e.columns r.2 = true) :
    (ofAttempt a).apply w e call = ofOutcome (a.apply e call) := by
  have hrow := hk.typed
  have hnone : ∀ c ∈ (none : Option ColumnRef), e.columns.operandType? c = some .text := by simp
  have hsome {c : ColumnRef} (hc : e.columns.operandType? c = some .text) :
      ∀ d ∈ some c, e.columns.operandType? d = some .text := by simpa using hc
  have hvalue {p : ListingRules.Param} {t : OperandType} (hmem : p ∈ call.params)
      (hp : p.isValue t = true) : Listing.Provides e a p t :=
    Listing.provides_of_isValue hk hcompare hmem hp
  have hcolumn {c : ColumnRef} {t : OperandType} (hmem : c ∈ eff.reads.map (·.2))
      (hc : e.columns.operandType? c = some t) : Listing.HasValue e a (.column c) t :=
    Listing.hasValue_of_reads hk hreads hmem hc
  cases haccepted with
  | bare hf =>
      rcases hf with rfl | rfl | rfl | rfl | rfl | rfl
      · exact congrArg (· >>= _) (h.skipWhile _)
      · exact congrArg (· >>= _) (h.skipWhile _)
      · exact skipSpaces_agrees h
      · exact takeWhile_agrees h hrow hnone
      · exact takeLine_agrees h hrow hnone
      · exact takeWhile_agrees h hrow hnone
  | counted n hf =>
      rcases hf with rfl | rfl | rfl
      · exact moveBy_agrees (h.forward _)
      · exact moveBy_agrees (h.backward _)
      · exact takeChars_agrees n h hrow hnone
  | token hf hc =>
      rcases hf with rfl | rfl | rfl
      · exact takeLine_agrees h hrow (hsome hc)
      · exact takeWhile_agrees h hrow (hsome hc)
      · exact takeDevice_agrees h hrow hc
  | number hf hc =>
      rcases hf with rfl | rfl
      · exact takeSignedDigits_agrees false h hrow hc
      · exact takeSignedDigits_agrees true h hrow hc
  | separated hc ho =>
      obtain ⟨x, hx⟩ := hvalue (by simp) ho
      simp only [Attempt.apply, Listing.Attempt.apply, textOf_agrees h hx, hx, ok_bind]
      rw [ofAttempt, h.separatedDigits]
      exact takeNumber_agrees false (fun n c hc => h.walk (Cursor.walk_separatedDigits? hc)) hrow hc
  | month hf hc =>
      rcases hf with rfl | rfl | rfl
      · exact takeMonth3_agrees none h hrow hc
      · exact takeMonthTxt_agrees none h hrow hc
      · exact takeMonth_agrees h hrow hc
  | listedMonth names hf hc =>
      rcases hf with rfl | rfl
      · exact takeMonth3_agrees (some names) h hrow hc
      · exact takeMonthTxt_agrees (some names) h hrow hc
  | day hc => exact takeDay_agrees h hrow hc
  | year hc => exact takeYear_agrees h hrow hc
  | time hc => exact takeTime_agrees h hrow hc
  | yearOrTime hc hd => exact takeYearOrTime_agrees h hrow hc hd
  | chars n hc => exact takeChars_agrees n h hrow (hsome hc)
  | passTo ho => exact takeToText_agrees true h hrow (hvalue (by simp) ho) hnone
  | takeTo hf hc ho =>
      rcases hf with rfl | rfl
      · exact takeToText_agrees true h hrow (hvalue (by simp) ho) (hsome hc)
      · exact takeToText_agrees false h hrow (hvalue (by simp) ho) (hsome hc)
  | link hn hl => exact takeLink_agrees h hrow hn hl
  | require hp =>
      obtain ⟨b, hb⟩ := Listing.exists_eval? (hvalue (by simp) hp)
      exact require_agrees h hb
  | requireFlag hc =>
      obtain ⟨b, hb⟩ := hcolumn (by simp) hc
      exact require_agrees (p := .operand (.column _)) h hb
  | assignColumn hc hd => exact assign_agrees h hrow hc (hcolumn (by simp) hd)
  | assignValue hc hp => exact assign_agrees h hrow hc (hvalue (by simp) hp)
  | cut hf hc =>
      have hv := hcolumn (by simp) hc
      rcases hf with rfl | rfl | rfl
      · exact changeText_agrees (fun _ => rfl) h hrow hc hv
      · exact changeText_agrees (fun _ => rfl) h hrow hc hv
      · exact changeText_agrees (fun _ => rfl) h hrow hc hv
  | addColumn hc hd =>
      exact addString_agrees h hrow hc (hcolumn (by simp) hc) (hcolumn (by simp) hd)
  | addValue hc ho => exact addString_agrees h hrow hc (hcolumn (by simp) hc) (hvalue (by simp) ho)
  | cutEnd n hc => exact changeText_agrees (dropEnd_eq n) h hrow hc (hcolumn (by simp) hc)

theorem check_agrees {call : Call} {v u : Written} (h : w.Sees a.place)
    (hk : a.row.Keeps e.columns v) (hcompare : call.ComparesWell e.columns v)
    (hcheck : call.check e.columns v = .ok u) :
    (ofAttempt a).apply w e call = ofOutcome (a.apply e call) := by
  obtain ⟨eff, haccepted, hreads, -⟩ := Call.accepted_of_check hcheck
  exact apply_agrees h haccepted hk hcompare hreads

end Agreement

end ListingRules.Bytewise
