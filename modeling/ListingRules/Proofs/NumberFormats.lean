import ListingRules.Proofs.KnownText
import ListingRules.Proofs.RuleLayout

namespace ListingRules

open Character (isAlphabetic)
open Cursor (isSign)

namespace RuleSet.Source

theorem number_of_sign {c d : Cursor} {negative : Bool} (h : c.sign = (negative, d)) :
    let digits := d.ahead.takeWhile Char.isDigit
    let n : Int := if negative then -(Decimal.value digits : Int) else Decimal.value digits
    number c =
      if digits ≠ [] ∧ Decimal.minNumber ≤ n ∧ n ≤ Decimal.maxNumber then
        .ok (n, d.skipWhile Char.isDigit)
      else .error (.between .invalidNumber c (d.skipWhile Char.isDigit)) := by
  intro digits n
  have hread : number c =
      if digits.isEmpty = true ∨ n < Decimal.minNumber ∨ (Decimal.maxNumber : Int) < n then
        .error (.between .invalidNumber c (d.skipWhile Char.isDigit))
      else .ok (n, d.skipWhile Char.isDigit) := by
    simp only [Cursor.sign] at h
    split at h
    · rename_i hplus
      obtain ⟨rfl, rfl⟩ := Prod.mk.inj h
      simp [number, hplus, digits, n]
    · rename_i hminus
      obtain ⟨rfl, rfl⟩ := Prod.mk.inj h
      simp [number, hminus, digits, n]
    · rename_i hplus hminus
      obtain ⟨rfl, rfl⟩ := Prod.mk.inj h
      have hplus : c.ahead.head? ≠ some '+' := hplus
      have hminus : c.ahead.head? ≠ some '-' := hminus
      simp [number, hplus, hminus, digits, n]
  have hrange : (digits.isEmpty = true ∨ n < Decimal.minNumber ∨ (Decimal.maxNumber : Int) < n) ↔
      ¬(digits ≠ [] ∧ Decimal.minNumber ≤ n ∧ n ≤ Decimal.maxNumber) := by
    simp only [List.isEmpty_iff, not_and_or, not_not, Int.not_le]
  rw [hread, if_congr hrange rfl rfl, ite_not]

end RuleSet.Source

structure Numeral where
  sign : Option Char
  digits : Text
  isSign_of_mem : ∀ x ∈ sign, isSign x = true
  isDigit_of_mem : ∀ x ∈ digits, x.isDigit = true
  digits_ne_nil : digits ≠ []

namespace Numeral

def text (t : Numeral) : Text :=
  t.sign.toList ++ t.digits

def magnitude (t : Numeral) : Nat :=
  Decimal.value t.digits

def value (t : Numeral) : Int :=
  if t.sign = some '-' then -(t.magnitude : Int) else t.magnitude

theorem value_eq (t : Numeral) :
    (if decide (t.sign = some '-') = true then -(t.magnitude : Int) else t.magnitude) =
      t.value := by
  simp [value]

def Fits (t : Numeral) : Prop :=
  Decimal.minNumber ≤ t.value ∧ t.value ≤ Decimal.maxNumber

instance (t : Numeral) : Decidable t.Fits :=
  inferInstanceAs (Decidable (_ ∧ _))

theorem fits_iff (t : Numeral) :
    t.Fits ↔ t.magnitude ≤ Decimal.maxNumber ∨ t.value = Decimal.minNumber := by
  simp only [Fits, value, Decimal.minNumber, Decimal.maxNumber]
  split <;> omega

theorem value_ne_minNumber (t : Numeral) (h : t.magnitude ≤ Decimal.maxNumber) :
    t.value ≠ Decimal.minNumber := by
  simp only [value, Decimal.minNumber, Decimal.maxNumber] at h ⊢
  split <;> omega

theorem read?_digits (t : Numeral) :
    Decimal.read? t.digits =
      if t.magnitude ≤ Decimal.maxNumber then some t.magnitude else none := by
  have hall : t.digits.all Char.isDigit = true := List.all_eq_true.2 t.isDigit_of_mem
  have hempty : t.digits.isEmpty = false := by simpa using t.digits_ne_nil
  rw [Decimal.read?, hempty, hall]
  rfl

theorem exists_cons (t : Numeral) : ∃ x more, t.digits = x :: more ∧ x.isDigit = true := by
  obtain ⟨x, more, hx⟩ := List.exists_cons_of_ne_nil t.digits_ne_nil
  exact ⟨x, more, hx, t.isDigit_of_mem x (by simp [hx])⟩

theorem exists_head? (t : Numeral) (rest : Text) :
    ∃ x, (t.text ++ rest).head? = some x ∧ (x.isDigit || x == '+' || x == '-') = true := by
  obtain ⟨sign, digits, hsign, hdigits, hne⟩ := t
  cases sign with
  | none =>
      obtain ⟨x, more, rfl⟩ := List.exists_cons_of_ne_nil hne
      exact ⟨x, rfl, by simp [hdigits x List.mem_cons_self]⟩
  | some x => exact ⟨x, rfl, by
      have hx : x == '+' || x == '-' := hsign x rfl
      rw [Bool.or_assoc, hx, Bool.or_true]⟩

theorem sign_text (t : Numeral) (behind rest : Text) :
    (⟨behind, t.text ++ rest⟩ : Cursor).sign =
      (decide (t.sign = some '-'), ⟨t.sign.toList.reverse ++ behind, t.digits ++ rest⟩) := by
  obtain ⟨x, more, hx, hdigit⟩ := t.exists_cons
  have hstops : Stops isSign (t.digits ++ rest) := by
    rw [hx]
    exact stops_cons (Cursor.isSign_eq_false_of_isDigit hdigit)
  rw [text, List.append_assoc]
  exact Cursor.sign_append t.sign t.isSign_of_mem (fun _ => hstops) behind

theorem reverse_text_append (t : Numeral) (behind : Text) :
    t.digits.reverse ++ (t.sign.toList.reverse ++ behind) = t.text.reverse ++ behind := by
  simp [text]

section Readers

variable {rest : Text} (hrest : Stops Char.isDigit rest)
include hrest

theorem signedDigits?_text (t : Numeral) (behind : Text) :
    (⟨behind, t.text ++ rest⟩ : Cursor).signedDigits? =
      if t.magnitude ≤ Decimal.maxNumber then some (t.value, ⟨t.text.reverse ++ behind, rest⟩)
      else none := by
  simp only [Cursor.signedDigits?, t.sign_text, Cursor.digits?,
    takeWhile_append_of_stops t.isDigit_of_mem hrest, t.read?_digits,
    Cursor.skipWhile_append _ t.isDigit_of_mem hrest]
  by_cases hfits : t.magnitude ≤ Decimal.maxNumber
  · simp only [if_pos hfits, Option.map_some, t.value_eq, t.reverse_text_append behind]
  · simp only [if_neg hfits, Option.map_none]

theorem operand_text (t : Numeral) (s : ColumnSet) (behind : Text) :
    RuleSet.Source.operand s ⟨behind, t.text ++ rest⟩ =
      if t.Fits then .ok (.number t.value, ⟨t.text.reverse ++ behind, rest⟩)
      else .error (.between .invalidNumber ⟨behind, t.text ++ rest⟩
        ⟨t.text.reverse ++ behind, rest⟩) := by
  obtain ⟨x, hhead, hx⟩ := t.exists_head? rest
  have hne {y : Char} (hy : (y.isDigit || y == '+' || y == '-') = false) : x ≠ y := by
    rintro rfl
    simp [hx] at hy
  have hread := RuleSet.Source.number_of_sign (t.sign_text behind rest)
  simp only [takeWhile_append_of_stops t.isDigit_of_mem hrest, t.reverse_text_append behind,
    Cursor.skipWhile_append _ t.isDigit_of_mem hrest] at hread
  rw [RuleSet.Source.operand_of_head (c := ⟨behind, t.text ++ rest⟩) hhead (hne (by decide))
    (hne (by decide)), if_pos hx, hread]
  have hfits : (t.digits ≠ [] ∧ Decimal.minNumber ≤ t.value ∧
      t.value ≤ Decimal.maxNumber) ↔ t.Fits := and_iff_right t.digits_ne_nil
  have hvalue := t.value_eq
  rw [magnitude] at hvalue
  rw [hvalue, if_congr hfits rfl rfl]
  split <;> rfl

theorem apply_number_text (t : Numeral) {e : Listing.Surroundings} {f : Listing.Found} {i : Nat}
    {cell : Listing.Cell} (hcell : f.row.Holds e.columns i .number cell)
    (hletter : Stops isAlphabetic rest) (behind : Text) :
    (f.at ⟨behind, t.text ++ rest⟩).apply e (Listing.callOn .number [i]) =
      if t.magnitude ≤ Decimal.maxNumber then
        .continues ((f.set i (.number (some t.value))).at ⟨t.text.reverse ++ behind, rest⟩)
      else .fails f.languages := by
  have hnext : (⟨t.text.reverse ++ behind, rest⟩ : Cursor).nextIsAlphabetic = false :=
    Cursor.nextIsAlphabetic_eq_false_iff.2 hletter
  simp only [Listing.callOn, List.map, Listing.Attempt.apply, Listing.Attempt.takeNumber,
    Listing.Found.at, t.signedDigits?_text hrest]
  by_cases hfits : t.magnitude ≤ Decimal.maxNumber
  · simp only [if_pos hfits, hnext, Bool.false_eq_true, ↓reduceIte]
    let change (k : ColumnKind) (_ : Listing.Cell) : Option Listing.Cell :=
      (Listing.keptNumber? k false t.value).map .number
    have hchange : change .number cell = some (.number (some t.value)) := by
      simp [change, Listing.keptNumber?]
    exact hcell.modify hchange _
  · simp only [if_neg hfits]

end Readers

theorem parseNumber?_text (t : Numeral) :
    Value.parseNumber? t.text =
      if t.magnitude ≤ Decimal.maxNumber then some t.value else none := by
  have hmap : (Decimal.read? t.digits).map (fun n : Nat =>
      if t.sign = some '-' then -(n : Int) else n) =
        if t.magnitude ≤ Decimal.maxNumber then some t.value else none := by
    rw [t.read?_digits]
    by_cases hfits : t.magnitude ≤ Decimal.maxNumber
    · simp only [if_pos hfits, Option.map_some, value]
    · simp only [if_neg hfits, Option.map_none]
  rw [← hmap, text]
  cases hsign : t.sign with
  | none =>
      obtain ⟨x, more, hx, hdigit⟩ := t.exists_cons
      have hplus : x ≠ '+' := by
        rintro rfl
        cases hdigit
      have hminus : x ≠ '-' := by
        rintro rfl
        cases hdigit
      simp [Value.parseNumber?, hx, hplus, hminus]
      rfl
  | some x =>
      have hx : x = '+' ∨ x = '-' := by simpa [isSign] using t.isSign_of_mem x hsign
      rcases hx with rfl | rfl <;> rfl

theorem parse?_text (t : Numeral) :
    Value.parse? .number t.text =
      if t.magnitude ≤ Decimal.maxNumber then some (.number t.value) else none := by
  rw [Value.parse?, t.parseNumber?_text]
  split <;> rfl

end Numeral

theorem taken_or_refused {α : Type} {p : Prop} [Decidable p] {x taken refused : α}
    (h : x = if p then taken else refused) (hne : taken ≠ refused) :
    (x = taken ∨ x = refused) ∧ (x = taken ↔ p) := by
  subst h
  by_cases hp : p <;> simp [hp, hne.symm]

section Formats

variable {e : Listing.Surroundings} {f : Listing.Found} {i : Nat} {rest after : Text}

/-- What rules tell, what is read in a listing and what is declared: each is taken for the number
or refused, and they differ in the smallest number only. -/
theorem numeral_formats (t : Numeral) (hrow : f.row.Typed e.columns)
    (hi : (e.columns.get? i).map (·.kind) = some .number) (hrest : Stops Char.isDigit rest)
    (hletter : Stops isAlphabetic rest) (hafter : Stops Char.isDigit after) (s : ColumnSet)
    (before behind : Text) :
    let literal := RuleSet.Source.operand s ⟨before, t.text ++ after⟩
    let read := (f.at ⟨behind, t.text ++ rest⟩).apply e (Listing.callOn .number [i])
    let declared := Value.parse? .number t.text
    let isLiteral := literal = .ok (.number t.value, ⟨t.text.reverse ++ before, after⟩)
    let isRead := read =
      .continues ((f.set i (.number (some t.value))).at ⟨t.text.reverse ++ behind, rest⟩)
    let isDeclared := declared = some (.number t.value)
    (isLiteral ∨ literal = .error (.between .invalidNumber ⟨before, t.text ++ after⟩
        ⟨t.text.reverse ++ before, after⟩)) ∧
      (isRead ∨ read = .fails f.languages) ∧
      (isDeclared ∨ declared = none) ∧
      (isLiteral ↔ t.Fits) ∧
      (isRead ↔ isDeclared) ∧
      ((isLiteral ↔ isRead) ↔ t.value ≠ Decimal.minNumber) := by
  intro literal read declared isLiteral isRead isDeclared
  obtain ⟨column, hcolumn, -⟩ := Option.map_eq_some_iff.1 hi
  obtain ⟨cell, hcell, -⟩ := hrow.exists_cell hcolumn
  obtain ⟨hliteral, hfits⟩ := taken_or_refused (t.operand_text hafter s before) (by simp)
  obtain ⟨hread, hreads⟩ :=
    taken_or_refused (t.apply_number_text hrest ⟨hi, hcell⟩ hletter behind) (by simp)
  obtain ⟨hdeclared, hdeclares⟩ := taken_or_refused t.parse?_text (by simp)
  refine ⟨hliteral, hread, hdeclared, hfits, hreads.trans hdeclares.symm, ?_⟩
  -- The literal is read together with its sign, the other two are negated when they are read.
  rw [show isLiteral ↔ t.Fits from hfits, show isRead ↔ _ from hreads, t.fits_iff]
  constructor
  · intro h hmin
    exact t.value_ne_minNumber (h.1 (.inr hmin)) hmin
  · intro hne
    exact or_iff_left hne

end Formats

namespace Listing.Smallest

def columns : ColumnSet :=
  ⟨[⟨"name".toList, .name, .empty⟩, ⟨['n'], .number, .empty⟩], 0⟩

def numeral : Numeral :=
  ⟨some '-', "9223372036854775808".toList, by simp [isSign], List.all_eq_true.1 rfl, by simp⟩

def source : Text :=
  "* number(<n>), if(<n> == -9223372036854775808), white_spaces(), word(<name>);\n".toList

def rules : RuleSet :=
  ⟨[⟨[callOn .number [1],
    ⟨.require, [.comparison (.column (.declared 1)) .equal (.number numeral.value)]⟩,
    callOn .whiteSpaces [], callOn .word [0]]⟩], columns⟩

theorem isDay_today : IsDay 2024 1 10 := by decide

def context : Context :=
  { today := ⟨2024, 1, 10, isDay_today⟩ }

def listing : Text :=
  "-9223372036854775808 x\n".toList

/-- A rule can ask for the smallest number, but no column receives it. -/
theorem parse_smallest :
    numeral.text = "-9223372036854775808".toList ∧ numeral.Fits ∧
      RuleSet.compile source columns = .ok rules ∧
      parse rules listing context = .error ⟨0, 1⟩ ∧
      Value.parse? .number numeral.text = none :=
  ⟨by rfl, by decide, by rfl, by rfl, by rfl⟩

def surroundings : Surroundings :=
  Reading.surroundings columns context listing

def start : Found :=
  ⟨Row.empty columns, Languages.all⟩

def padded : Numeral :=
  ⟨some '+', "0042".toList, by simp [isSign], List.all_eq_true.1 rfl, by simp⟩

theorem numeral_formats_smallest :
    (RuleSet.Source.operand columns ⟨[], numeral.text ++ [')']⟩ =
        .ok (.number Decimal.minNumber, ⟨numeral.text.reverse, [')']⟩) ∧
      (start.at ⟨[], numeral.text ++ " x".toList⟩).apply surroundings (callOn .number [1]) =
        .fails Languages.all) ∧
      (start.at ⟨[], padded.text ++ " x".toList⟩).apply surroundings (callOn .number [1]) =
        .continues ((start.set 1 (.number (some 42))).at ⟨"2400+".toList, " x".toList⟩) := by
  have hspace : Stops Char.isDigit " x".toList := stops_cons (by decide)
  have hletter : Stops isAlphabetic " x".toList := stops_cons (by decide)
  have hclose : Stops Char.isDigit [')'] := stops_cons (by decide)
  have hformats (t : Numeral) := numeral_formats (e := surroundings) (f := start) (i := 1) t
    Row.typed_empty rfl hspace hletter hclose columns [] []
  obtain ⟨-, hread, -, hliteral, -, hsame⟩ := hformats numeral
  obtain ⟨-, -, -, hfits, -, hagree⟩ := hformats padded
  have hsmallest := hliteral.2 (by decide)
  refine ⟨⟨hsmallest, hread.resolve_left fun h => ?_⟩, ?_⟩
  · exact hsame.1 ⟨fun _ => h, fun _ => hsmallest⟩ (by decide)
  · exact (hagree.2 (by decide)).1 (hfits.2 (by decide))

end Listing.Smallest

end ListingRules
