import ListingRules.Proofs.NumberFormats

namespace ListingRules

namespace Decimal

structure IsNumeral (digits : Text) (n : Nat) : Prop where
  ne_nil : digits ≠ []
  isDigit : ∀ x ∈ digits, x.isDigit = true
  value_eq : value digits = n
  le_max : n ≤ maxNumber

theorem read?_eq_some_iff {digits : Text} {n : Nat} :
    read? digits = some n ↔ IsNumeral digits n := by
  constructor
  · intro h
    obtain ⟨hne, hdigits⟩ := isDigit_of_read? h
    have hall : digits.all Char.isDigit = true := List.all_eq_true.2 hdigits
    have hempty : digits.isEmpty = false := by simpa using hne
    have hle := read?_le h
    rw [read?, hempty, hall] at h
    refine ⟨hne, hdigits, ?_, hle⟩
    split at h
    · contradiction
    · split at h
      · exact Option.some.inj h
      · contradiction
  · rintro ⟨hne, hdigits, rfl, hle⟩
    have hall : digits.all Char.isDigit = true := List.all_eq_true.2 hdigits
    have hempty : digits.isEmpty = false := by simpa using hne
    rw [read?, hempty, hall]
    exact if_pos hle

theorem IsNumeral.not_mem {digits : Text} {n : Nat} (h : IsNumeral digits n) {x : Char}
    (hx : x.isDigit = false) : x ∉ digits :=
  fun hmem => Bool.false_ne_true (hx.symm.trans (h.isDigit x hmem))

end Decimal

open Decimal (IsNumeral)

namespace Numeral

def ofDigits {digits : Text} {n : Nat} (h : IsNumeral digits n) (sign : Option Char)
    (hsign : ∀ x ∈ sign, Cursor.isSign x = true) : Numeral :=
  ⟨sign, digits, hsign, h.isDigit, h.ne_nil⟩

theorem head?_text_iff (t : Numeral) : t.text.head? = some '-' ↔ t.sign = some '-' := by
  cases hsign : t.sign with
  | none =>
      obtain ⟨x, more, hx, hdigit⟩ := t.exists_cons
      have hne : x ≠ '-' := by
        rintro rfl
        cases hdigit
      simp [text, hsign, hx, hne]
  | some x => simp [text, hsign]

end Numeral

namespace Value

theorem parseNumber?_eq_some_iff {t : Text} {n : Int} :
    parseNumber? t = some n ↔
      ∃ u : Numeral, t = u.text ∧ u.magnitude ≤ Decimal.maxNumber ∧ u.value = n := by
  constructor
  · intro h
    unfold parseNumber? at h
    split at h
    all_goals
      simp only [Option.map_eq_some_iff, Decimal.read?_eq_some_iff] at h
      obtain ⟨m, hm, rfl⟩ := h
    · exact ⟨.ofDigits hm (some '+') (by simp [Cursor.isSign]), rfl, hm.value_eq ▸ hm.le_max,
        congrArg Int.ofNat hm.value_eq⟩
    · exact ⟨.ofDigits hm (some '-') (by simp [Cursor.isSign]), rfl, hm.value_eq ▸ hm.le_max,
        congrArg (fun n : Nat => -(n : Int)) hm.value_eq⟩
    · exact ⟨.ofDigits hm none (by simp), rfl, hm.value_eq ▸ hm.le_max,
        congrArg Int.ofNat hm.value_eq⟩
  · rintro ⟨u, rfl, hfits, rfl⟩
    rw [u.parseNumber?_text, if_pos hfits]

theorem parseSize?_eq (t : Text) :
    parseSize? t = if t.head? = some '-' then none else parseNumber? t := by
  cases t with
  | nil => rfl
  | cons x t =>
      by_cases hplus : x = '+'
      · subst hplus
        rfl
      · by_cases hminus : x = '-'
        · subst hminus
          rfl
        · simp [parseSize?, parseNumber?, hplus, hminus]

theorem parseSize?_eq_some_iff {t : Text} {n : Int} :
    parseSize? t = some n ↔ ∃ u : Numeral, t = u.text ∧ u.sign ≠ some '-' ∧
      u.magnitude ≤ Decimal.maxNumber ∧ u.value = n := by
  rw [parseSize?_eq]
  constructor
  · intro h
    split at h
    · cases h
    · rename_i hhead
      obtain ⟨u, rfl, hfits, hvalue⟩ := parseNumber?_eq_some_iff.1 h
      exact ⟨u, rfl, mt u.head?_text_iff.2 hhead, hfits, hvalue⟩
  · rintro ⟨u, rfl, hsign, hfits, hvalue⟩
    rw [if_neg (mt u.head?_text_iff.1 hsign)]
    exact parseNumber?_eq_some_iff.2 ⟨u, rfl, hfits, hvalue⟩

end Value

def Date.IsToldBy (d : Date) (t : Text) : Prop :=
  1602 ≤ d.year ∧ ∃ day month year, t = day ++ '.' :: (month ++ '.' :: year) ∧
    IsNumeral day d.day ∧ IsNumeral month d.month ∧ IsNumeral year d.year.toNat

def Time.IsToldBy (c : Time) (t : Text) : Prop :=
  c.milli = 0 ∧ ∃ hour minute, IsNumeral hour c.hour ∧ IsNumeral minute c.minute ∧
    (t = hour ++ ':' :: minute ∧ c.second = 0 ∨
      ∃ second, t = hour ++ ':' :: (minute ++ ':' :: second) ∧ IsNumeral second c.second)

namespace Value

theorem splitOn_append_two {x : Char} {a b : Text} (ha : x ∉ a) (hb : x ∉ b) :
    (a ++ x :: b).splitOn x = [a, b] := by
  have h : ([x].intercalate [a, b]).splitOn x = [a, b] :=
    List.splitOn_intercalate x (by simpa using ⟨ha, hb⟩) (by simp)
  simpa [List.intercalate] using h

theorem splitOn_append_three {x : Char} {a b c : Text} (ha : x ∉ a) (hb : x ∉ b) (hc : x ∉ c) :
    (a ++ x :: (b ++ x :: c)).splitOn x = [a, b, c] := by
  rw [List.splitOn_append_cons_self, splitOn_append_two hb hc]
  have h : ([x].intercalate [a]).splitOn x = [a] :=
    List.splitOn_intercalate x (by simpa using ha) (by simp)
  simp only [List.intercalate_singleton] at h
  rw [h]
  rfl

theorem parseDate?_eq_some_iff {t : Text} {d : Date} :
    parseDate? t = some d ↔ d.IsToldBy t := by
  constructor
  · intro h
    have hyear := parseDate?_year h
    unfold parseDate? at h
    split at h
    · rename_i day month year hsplit
      simp only [Option.bind_eq_bind, Option.bind_eq_some_iff, Decimal.read?_eq_some_iff] at h
      obtain ⟨n, hday, m, hmonth, y, hy, h⟩ := h
      split at h
      · cases h
      · obtain ⟨hdyear, rfl, rfl⟩ := Date.ofParts?_eq_some_iff.1 h
        have ht : ['.'].intercalate (t.splitOn '.') = t := List.intercalate_splitOn '.'
        rw [hsplit] at ht
        have htext : t = day ++ '.' :: (month ++ '.' :: year) := by
          simpa [List.intercalate] using ht.symm
        refine ⟨hyear, day, month, year, htext, hday, hmonth, ?_⟩
        rwa [hdyear, Int.toNat_natCast]
    · cases h
  · rintro ⟨hfirst, day, month, year, rfl, hday, hmonth, hyear⟩
    have hpoint : '.'.isDigit = false := by decide
    have hnatural : ((d.year.toNat : Nat) : Int) = d.year := Int.toNat_of_nonneg (by omega)
    have hlate : ¬ d.year.toNat < 1602 := by omega
    simp [parseDate?, splitOn_append_three (hday.not_mem hpoint) (hmonth.not_mem hpoint)
      (hyear.not_mem hpoint), Decimal.read?_eq_some_iff.2 hday, Decimal.read?_eq_some_iff.2 hmonth,
      Decimal.read?_eq_some_iff.2 hyear, hlate, hnatural, Date.ofParts?_eq_some_iff]

theorem parseTime?_eq_some_iff {t : Text} {c : Time} :
    parseTime? t = some c ↔ c.IsToldBy t := by
  constructor
  · intro h
    unfold parseTime? at h
    have ht : [':'].intercalate (t.splitOn ':') = t := List.intercalate_splitOn ':'
    split at h
    · rename_i hour minute hsplit
      simp only [Option.bind_eq_bind, Option.bind_eq_some_iff, Decimal.read?_eq_some_iff] at h
      obtain ⟨n, hhour, m, hminute, h⟩ := h
      obtain ⟨rfl, rfl, hsecond, hmilli⟩ := Time.ofParts?_eq_some_iff.1 h
      rw [hsplit] at ht
      exact ⟨hmilli, hour, minute, hhour, hminute,
        .inl ⟨by simpa [List.intercalate] using ht.symm, hsecond⟩⟩
    · rename_i hour minute second hsplit
      simp only [Option.bind_eq_bind, Option.bind_eq_some_iff, Decimal.read?_eq_some_iff] at h
      obtain ⟨n, hhour, m, hminute, k, hsecond, h⟩ := h
      obtain ⟨rfl, rfl, rfl, hmilli⟩ := Time.ofParts?_eq_some_iff.1 h
      rw [hsplit] at ht
      exact ⟨hmilli, hour, minute, hhour, hminute,
        .inr ⟨second, by simpa [List.intercalate] using ht.symm, hsecond⟩⟩
    · cases h
  · have hcolon : ':'.isDigit = false := by decide
    rintro ⟨hmilli, hour, minute, hhour, hminute, ⟨rfl, hsecond⟩ | ⟨second, rfl, hsecond⟩⟩
    · simp [parseTime?, splitOn_append_two (hhour.not_mem hcolon) (hminute.not_mem hcolon),
        Decimal.read?_eq_some_iff.2 hhour, Decimal.read?_eq_some_iff.2 hminute,
        Time.ofParts?_eq_some_iff, hmilli, hsecond]
    · simp [parseTime?, splitOn_append_three (hhour.not_mem hcolon) (hminute.not_mem hcolon)
        (hsecond.not_mem hcolon), Decimal.read?_eq_some_iff.2 hhour,
        Decimal.read?_eq_some_iff.2 hminute, Decimal.read?_eq_some_iff.2 hsecond,
        Time.ofParts?_eq_some_iff, hmilli]

inductive IsToldBy (t : Text) : ColumnKind → Value → Prop
  | text : IsToldBy t .text (text t)
  | fileType : IsToldBy t .fileType (text t)
  | size {n : Numeral} : t = n.text → n.sign ≠ some '-' → n.magnitude ≤ Decimal.maxNumber →
      IsToldBy t .size (number n.value)
  | number {n : Numeral} : t = n.text → n.magnitude ≤ Decimal.maxNumber →
      IsToldBy t .number (number n.value)
  | date {d : Date} : d.IsToldBy t → IsToldBy t .date (date d)
  | generalDate {d : Date} : d.IsToldBy t → IsToldBy t .generalDate (date d)
  | time {c : Time} : c.IsToldBy t → IsToldBy t .time (time c)
  | generalTime {c : Time} : c.IsToldBy t → IsToldBy t .generalTime (time c)

theorem parse?_eq_some_iff {k : ColumnKind} {t : Text} {v : Value} :
    parse? k t = some v ↔ IsToldBy t k v := by
  constructor
  · intro h
    cases k <;> simp only [parse?, Option.map_eq_some_iff, Option.some.injEq, reduceCtorEq] at h
    case size =>
      obtain ⟨n, hn, rfl⟩ := h
      obtain ⟨u, rfl, hsign, hfits, rfl⟩ := parseSize?_eq_some_iff.1 hn
      exact .size rfl hsign hfits
    case date =>
      obtain ⟨d, hd, rfl⟩ := h
      exact .date (parseDate?_eq_some_iff.1 hd)
    case time =>
      obtain ⟨c, hc, rfl⟩ := h
      exact .time (parseTime?_eq_some_iff.1 hc)
    case fileType => exact h ▸ .fileType
    case text => exact h ▸ .text
    case generalDate =>
      obtain ⟨d, hd, rfl⟩ := h
      exact .generalDate (parseDate?_eq_some_iff.1 hd)
    case generalTime =>
      obtain ⟨c, hc, rfl⟩ := h
      exact .generalTime (parseTime?_eq_some_iff.1 hc)
    case number =>
      obtain ⟨n, hn, rfl⟩ := h
      obtain ⟨u, rfl, hfits, rfl⟩ := parseNumber?_eq_some_iff.1 hn
      exact .number rfl hfits
  · intro h
    cases h with
    | text => rfl
    | fileType => rfl
    | size ht hsign hfits =>
        exact congrArg (Option.map Value.number)
          (parseSize?_eq_some_iff.2 ⟨_, ht, hsign, hfits, rfl⟩)
    | number ht hfits =>
        exact congrArg (Option.map Value.number) (parseNumber?_eq_some_iff.2 ⟨_, ht, hfits, rfl⟩)
    | date h => exact congrArg (Option.map Value.date) (parseDate?_eq_some_iff.2 h)
    | generalDate h => exact congrArg (Option.map Value.date) (parseDate?_eq_some_iff.2 h)
    | time h => exact congrArg (Option.map Value.time) (parseTime?_eq_some_iff.2 h)
    | generalTime h => exact congrArg (Option.map Value.time) (parseTime?_eq_some_iff.2 h)

end Value

end ListingRules
