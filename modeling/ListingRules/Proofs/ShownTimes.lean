import ListingRules.Proofs.Bytewise.Bytes
import ListingRules.Proofs.KnownText

namespace ListingRules

open Character (isAlphanumeric)

namespace Time

def secondsText (t : Time) : Text :=
  if t.milli ≠ 0 then ':' :: Decimal.padded 2 t.second ++ '.' :: Decimal.padded 3 t.milli
  else if t.second ≠ 0 then ':' :: Decimal.padded 2 t.second
  else []

def nextMark? (t : Time) : Option Char :=
  if t.milli ≠ 0 then none else if t.second ≠ 0 then some '.' else some ':'

theorem nextMark?_mem (t : Time) {x : Char} (h : x ∈ t.nextMark?) : x ∈ [':', '.'] := by
  simp only [nextMark?] at h
  split at h
  · cases h
  · split at h <;> obtain rfl := Option.some.inj h <;> decide

def textWithHour (t : Time) (hour : Nat) : Text :=
  Decimal.digits hour ++ ':' :: Decimal.padded 2 t.minute ++ t.secondsText

def dayText (t : Time) : Text :=
  t.textWithHour t.hour

def clockHour (t : Time) : Nat :=
  if t.hour % 12 = 0 then 12 else t.hour % 12

theorem clockHour_lt (t : Time) : t.clockHour < 24 := by
  simp only [clockHour]
  split <;> omega

def clockText (t : Time) : Text :=
  t.textWithHour t.clockHour

def IsHalfMark (t : Time) (mark : Text) : Prop :=
  let half := if t.hour < 12 then 'a' else 'p'
  mark.map Char.toLower = [half] ∨ mark.map Char.toLower = [half, 'm']

instance (t : Time) (mark : Text) : Decidable (t.IsHalfMark mark) :=
  inferInstanceAs (Decidable (_ ∨ _))

theorem IsHalfMark.exists_cons {t : Time} {mark : Text} (h : t.IsHalfMark mark) :
    ∃ x more, mark = x :: more ∧ x.toLower ∈ ['a', 'p', 'm'] := by
  have hhalf : (if t.hour < 12 then 'a' else 'p') ∈ ['a', 'p', 'm'] := by
    split <;> simp
  simp only [IsHalfMark, List.map_eq_cons_iff] at h
  obtain ⟨x, more, rfl, hx, -⟩ | ⟨x, more, rfl, hx, -⟩ := h
  · exact ⟨x, more, rfl, hx ▸ hhalf⟩
  · exact ⟨x, more, rfl, hx ▸ hhalf⟩

end Time

namespace Character

theorem isAlphanumeric_of_isDigit {c : Char} (h : c.isDigit = true) : isAlphanumeric c = true := by
  have hascii : c.toNat < 0x80 := Nat.lt_of_le_of_lt (Char.isDigit_iff_toNat.1 h).2 (by decide)
  simp [isAlphanumeric_of_ascii hascii, h]

theorem isAlphanumeric_of_toLower {c : Char} (h : c.toLower ∈ ['a', 'p', 'm']) :
    isAlphanumeric c = true ∧ c.isDigit = false ∧ c ∉ [':', '.'] := by
  have hascii : Bytewise.IsAscii c.toLower := by
    simp only [List.mem_cons, List.not_mem_nil, or_false] at h
    rcases h with h | h | h <;> rw [h] <;> decide
  obtain ⟨n, hn, rfl⟩ := Bytewise.eq_ofNat_of_isAscii (Bytewise.isAscii_of_toLower hascii)
  revert n
  decide

end Character

namespace Cursor

theorem read?_padded_of_lt {n : Nat} (width : Nat) (hn : n < 1000) :
    Decimal.read? (Decimal.padded width n) = some n :=
  Decimal.read?_padded width (Nat.le_trans (Nat.le_of_lt hn) (by decide))

theorem expect?_cons (behind : Text) (x : Char) (t : Text) :
    (⟨behind, x :: t⟩ : Cursor).expect? x = some ⟨x :: behind, t⟩ := by
  simp [expect?]

theorem seconds?_append {t : Time} {rest : Text} (hrest : Stops Char.isDigit rest)
    (hmark : ∀ x ∈ t.nextMark?, rest.head? ≠ some x) (behind : Text) :
    (⟨behind, t.secondsText ++ rest⟩ : Cursor).seconds? =
      some (t.second, t.milli, ⟨t.secondsText.reverse ++ behind, rest⟩) := by
  obtain ⟨-, -, hsecond, hmilli⟩ := t.isTimeOfDay
  have hreadSecond := read?_padded_of_lt (n := t.second) 2 (by omega)
  have hreadMilli := read?_padded_of_lt 3 hmilli
  have hpoint (u : Text) : Stops Char.isDigit ('.' :: u) := stops_cons (by decide)
  by_cases hm : t.milli = 0
  · by_cases hs : t.second = 0
    · have hcolon : rest.head? ≠ some ':' := hmark ':' (by simp [Time.nextMark?, hm, hs])
      simp [Time.secondsText, seconds?, expect?, hm, hs, hcolon]
    · have hdot : rest.head? ≠ some '.' := hmark '.' (by simp [Time.nextMark?, hm, hs])
      simp [Time.secondsText, seconds?, expect?, hm, hs, digits?_append hreadSecond hrest, hdot]
  · simp [Time.secondsText, seconds?, expect?, hm, digits?_append hreadSecond (hpoint _),
      digits?_append hreadMilli hrest]

section Halves

variable {rest : Text} (hrest : Stops isAlphanumeric rest)
include hrest

theorem lower_ne_of_stops {x : Char} (hx : x ∈ ['a', 'p', 'm']) :
    rest.head?.map Char.toLower ≠ some x := by
  intro h
  obtain ⟨c, hc, rfl⟩ := Option.map_eq_some_iff.1 h
  exact Bool.false_ne_true ((hrest c hc).symm.trans (Character.isAlphanumeric_of_toLower hx).1)

theorem halfOfDay_of_stops (hour : Nat) (behind : Text) :
    halfOfDay hour ⟨behind, rest⟩ = (hour, ⟨behind, rest⟩) := by
  have ha := lower_ne_of_stops hrest (x := 'a') (by simp)
  have hp := lower_ne_of_stops hrest (x := 'p') (by simp)
  -- these two rule out the cases in which a half is told
  simp only [halfOfDay]

theorem halfOfDay_append {half : Char} (hhalf : half = 'a' ∨ half = 'p') {mark : Text}
    (hmark : mark.map Char.toLower = [half] ∨ mark.map Char.toLower = [half, 'm']) (hour : Nat)
    (behind : Text) :
    halfOfDay hour ⟨behind, mark ++ rest⟩ =
      (if half = 'p' ∧ hour < 12 then hour + 12 else hour, ⟨mark.reverse ++ behind, rest⟩) := by
  have hm := lower_ne_of_stops hrest (x := 'm') (by simp)
  simp only [List.map_eq_cons_iff, List.map_eq_nil_iff] at hmark
  obtain ⟨x, _, rfl, hx, rfl⟩ | ⟨x, _, rfl, hx, y, _, rfl, hy, rfl⟩ := hmark
  · rcases hhalf with rfl | rfl <;> simp [halfOfDay, hx, hm]
  · rcases hhalf with rfl | rfl <;> simp [halfOfDay, hx, hy]

theorem halfOfDay_mark {t : Time} {mark : Text} (hmark : t.IsHalfMark mark) (hhour : t.hour ≠ 0)
    (behind : Text) :
    halfOfDay t.clockHour ⟨behind, mark ++ rest⟩ = (t.hour, ⟨mark.reverse ++ behind, rest⟩) := by
  have hday := t.isTimeOfDay.1
  by_cases hhalf : t.hour < 12
  · have hclock : t.clockHour = t.hour := by
      simp only [Time.clockHour]
      split <;> omega
    simp only [Time.IsHalfMark, hhalf, ↓reduceIte] at hmark
    rw [halfOfDay_append hrest (.inl rfl) hmark, hclock]
    rfl
  · have hclock : (if t.clockHour < 12 then t.clockHour + 12 else t.clockHour) = t.hour := by
      simp only [Time.clockHour]
      split <;> split <;> omega
    simp only [Time.IsHalfMark, hhalf, ↓reduceIte] at hmark
    rw [halfOfDay_append hrest (.inr rfl) hmark]
    simpa using hclock

theorem time?_append {t : Time} {hour : Nat} (mark : Text) (hhour : hour < 24)
    (hdigits : Stops Char.isDigit (mark ++ rest))
    (hnext : ∀ x ∈ t.nextMark?, (mark ++ rest).head? ≠ some x)
    (hhalf : ∀ behind, halfOfDay hour ⟨behind, mark ++ rest⟩ =
      (t.hour, ⟨mark.reverse ++ behind, rest⟩)) (behind : Text) :
    (⟨behind, t.textWithHour hour ++ (mark ++ rest)⟩ : Cursor).time? =
      some (t, ⟨(t.textWithHour hour ++ mark).reverse ++ behind, rest⟩) := by
  have hreadHour : Decimal.read? (Decimal.digits hour) = some hour :=
    Decimal.read?_digits (Nat.le_trans (Nat.le_of_lt hhour) (by decide))
  have hreadMinute := read?_padded_of_lt (n := t.minute) 2 (by have := t.isTimeOfDay.2.1; omega)
  have hcolon (u : Text) : Stops Char.isDigit (':' :: u) := stops_cons (by decide)
  have hseconds : Stops Char.isDigit (t.secondsText ++ (mark ++ rest)) := by
    refine Stops.append ?_ hdigits
    unfold Time.secondsText
    split
    · exact hcolon _
    · split
      · exact hcolon _
      · exact fun x hx => by cases hx
  have hletter := stops_iff.1 hrest
  have htime : Time.ofParts? t.hour t.minute t.second t.milli = some t :=
    Time.ofParts?_eq_some_iff.2 ⟨rfl, rfl, rfl, rfl⟩
  simp [time?, Time.textWithHour, digits?_append hreadHour (hcolon _), hhour, expect?_cons,
    digits?_append hreadMinute hseconds, seconds?_append hdigits hnext, hhalf, hletter, htime,
    guard]

end Halves

end Cursor

namespace Listing

variable {e : Surroundings} {f : Found} {i : Nat} {k : ColumnKind} {cell : Cell} {t : Time}
  {taken rest : Text}

theorem takes_time (hcell : f.row.Holds e.columns i k cell)
    (hread : ∀ behind, (⟨behind, taken ++ rest⟩ : Cursor).time? =
      some (t, ⟨taken.reverse ++ behind, rest⟩)) :
    Takes e [callOn .time [i]] taken rest f (f.set i (.time t)) := by
  refine takes_of_apply fun behind => ?_
  simp only [callOn, List.map, Attempt.apply, Attempt.takeTime, Found.at, hread]
  exact hcell.setTime t _

/-- A time is read back from its text on a clock of twenty-four hours, when what follows does not
go on with it, and, behind the first hour of the day, from that on a clock of twelve. -/
theorem takes_time_shown (hrow : f.row.Typed e.columns)
    (hi : e.columns.operandType? (.declared i) = some .time)
    (hrest : Stops isAlphanumeric rest) (t : Time) :
    ((∀ x ∈ t.nextMark?, rest.head? ≠ some x) →
        Takes e [callOn .time [i]] t.dayText rest f (f.set i (.time t))) ∧
      (t.hour ≠ 0 → ∀ mark, t.IsHalfMark mark →
        Takes e [callOn .time [i]] (t.clockText ++ mark) rest f (f.set i (.time t))) := by
  obtain ⟨k, cell, hcell⟩ := hrow.holds hi
  have hdigits : Stops Char.isDigit rest := hrest.mono fun _ => Character.isAlphanumeric_of_isDigit
  constructor
  · intro hnext
    refine takes_time hcell fun behind => ?_
    have hread := Cursor.time?_append hrest [] t.isTimeOfDay.1 hdigits hnext
      (Cursor.halfOfDay_of_stops hrest t.hour) behind
    simpa [Time.dayText] using hread
  · intro hhour mark hmark
    obtain ⟨x, more, rfl, hx⟩ := hmark.exists_cons
    obtain ⟨-, hdigit, hother⟩ := Character.isAlphanumeric_of_toLower hx
    have hnext : ∀ y ∈ t.nextMark?, (x :: more ++ rest).head? ≠ some y := by
      rintro y hy hxy
      obtain rfl : x = y := by simpa using hxy
      exact hother (t.nextMark?_mem hy)
    refine takes_time hcell fun behind => ?_
    rw [List.append_assoc]
    exact Cursor.time?_append hrest _ t.clockHour_lt (stops_cons hdigit) hnext
      (Cursor.halfOfDay_mark hrest hmark hhour) behind

namespace Clocks

def columns : ColumnSet :=
  ⟨[⟨"name".toList, .name, .empty⟩, ⟨['t'], .generalTime, .empty⟩], 0⟩

def source : Text :=
  "* time(<t>), rest_of_line(<name>);\n".toList

def rules : RuleSet :=
  ⟨[⟨[callOn .time [1], callOn .restOfLine [0]]⟩], columns⟩

theorem isDay_today : IsDay 2024 4 10 := by decide

def context : Context :=
  { today := ⟨2024, 4, 10, isDay_today⟩ }

def surroundings (listing : Text) : Surroundings :=
  Reading.surroundings columns context listing

def start : Found :=
  ⟨Row.empty columns, Languages.all⟩

def afternoon : Time :=
  ⟨14, 30, 5, 250, by decide⟩

theorem takes_time_afternoon :
    let e := surroundings "14:30:05.250 x".toList
    Takes e [callOn .time [1]] "14:30:05.250".toList " x".toList start
        (start.set 1 (.time afternoon)) ∧
      Takes e [callOn .time [1]] "2:30:05.250Pm".toList " x".toList start
        (start.set 1 (.time afternoon)) := by
  intro e
  have hrest : Stops isAlphanumeric " x".toList := stops_cons (by decide)
  have hshown := takes_time_shown (e := e) (f := start) (i := 1) Row.typed_empty rfl hrest afternoon
  have hday : afternoon.dayText = "14:30:05.250".toList := by decide
  have hclock : afternoon.clockText ++ "Pm".toList = "2:30:05.250Pm".toList := by decide
  have hnext : afternoon.nextMark? = none := by decide
  rw [← hday, ← hclock]
  exact ⟨hshown.1 (by simp [hnext]), hshown.2 (by decide) _ (by decide)⟩

theorem isTimeOfDay_halfPast : ∀ hour < 24, IsTimeOfDay hour 30 0 0 := by decide

def halfPast (hour : Fin 24) : Time :=
  ⟨hour, 30, 0, 0, isTimeOfDay_halfPast hour hour.isLt⟩

def record (name : Text) (t : Time) : FileRecord :=
  { name, isDir := false, isHidden := false, isLink := false, size := 0
    modified := none, extension := none, values := [.text name, .time t] }

/-- A colon behind the minutes is taken for that of the seconds, and half past midnight is read from
its text on a clock of twelve hours as half past noon. -/
theorem parse_clocks :
    RuleSet.compile source columns = .ok rules ∧
      ((halfPast 10).dayText = "10:30".toList ∧ isAlphanumeric ':' = false ∧
        parse rules "10:30: x\n".toList context =
          .error ⟨0, 1⟩) ∧
      (halfPast 0).IsHalfMark "am".toList ∧
        (halfPast 0).clockText ++ "am".toList = "12:30am".toList ∧
        isAlphanumeric ' ' = false ∧
        parse rules "12:30am x\n".toList context = .ok [record " x".toList (halfPast 12)] :=
  ⟨by rfl, ⟨by decide, by decide, by rfl⟩, by decide, by decide, by decide, by rfl⟩

end Clocks

end Listing

end ListingRules
