import ListingRules.Listing.Row
import ListingRules.Proofs.KnownText

namespace ListingRules

open Text (IsWord blanks isBlank isLineEnd isVisible)

def Date.IsLaterInYear (d other : Date) : Prop :=
  other.month < d.month ∨ other.month = d.month ∧ other.day < d.day

instance (d other : Date) : Decidable (d.IsLaterInYear other) :=
  inferInstanceAs (Decidable (_ ∨ _ ∧ _))

theorem Date.day_le (d : Date) : d.day ≤ 31 := by
  have hdays : daysInMonth d.year d.month ≤ 31 := by
    simp only [daysInMonth]
    repeat' split
    all_goals omega
  exact Nat.le_trans d.isDay.2.2.2.2.2 hdays

namespace LongFormat

def IsRecent (today d : Date) : Prop :=
  d.year = today.year ∧ ¬ d.IsLaterInYear today ∨ d.year = today.year - 1 ∧ d.IsLaterInYear today

instance (today d : Date) : Decidable (IsRecent today d) :=
  inferInstanceAs (Decidable (_ ∧ _ ∨ _ ∧ _))

theorem resolve?_year (today d : Date) :
    Listing.DateParts.resolve? ⟨some d.day, some d.month, some d.year, false⟩ today =
      some (some d) := by
  simp [Listing.DateParts.resolve?, Listing.DateParts.whole?, Date.ofParts?, d.isDay]

theorem resolve?_guess {today d : Date} (h : IsRecent today d) :
    Listing.DateParts.resolve? ⟨some d.day, some d.month, some today.year, true⟩ today =
      some (some d) := by
  have hdate (year : Int) (hyear : d.year = year) : Date.ofParts? year d.month d.day = some d :=
    Date.ofParts?_eq_some_iff.2 ⟨hyear, rfl, rfl⟩
  simp only [IsRecent, Date.IsLaterInYear] at h
  simp only [Listing.DateParts.resolve?, Listing.DateParts.whole?, Option.bind_eq_bind,
    Option.bind_some, Option.pure_def, true_and]
  rcases h with ⟨hyear, hlater⟩ | ⟨hyear, hlater⟩
  · rw [if_neg hlater, hdate _ hyear]
  · rw [if_pos hlater, hdate _ hyear]

theorem read?_yearText {year : Int} (hfirst : 0 ≤ year) (hlast : year ≤ 9999) :
    Decimal.read? (Date.yearText year) = some year.toNat := by
  have hmax : year.natAbs ≤ Decimal.maxNumber := Nat.le_trans (by omega : _ ≤ 9999) (by decide)
  rw [Date.yearText, if_pos ⟨hfirst, hlast⟩, Decimal.read?_padded 4 hmax]
  congr 1
  omega

inductive Stamp where
  | time
  | year
  deriving DecidableEq, Repr

namespace Stamp

def Tells (today : Date) (m : Moment) : Stamp → Prop
  | time => m.time.second = 0 ∧ m.time.milli = 0 ∧ IsRecent today m.date
  | year => m.time = Time.midnight ∧ 1602 ≤ m.date.year ∧ m.date.year ≤ 9999

instance (today : Date) (m : Moment) : (s : Stamp) → Decidable (s.Tells today m)
  | time => inferInstanceAs (Decidable (_ ∧ _ ∧ _))
  | year => inferInstanceAs (Decidable (_ ∧ _ ∧ _))

def text (m : Moment) : Stamp → Text
  | time => Decimal.padded 2 m.time.hour ++ ':' :: Decimal.padded 2 m.time.minute
  | year => Date.yearText m.date.year

def indent : Stamp → Nat
  | time => 0
  | year => 1

end Stamp

def monthNames : List String :=
  ["Jan", "Feb", "Mar", "Apr", "May", "Jun", "Jul", "Aug", "Sep", "Oct", "Nov", "Dec"]

def monthText (month : Nat) : Text :=
  (monthNames.getD (month - 1) "").toList

structure FileName where
  text : Text
  startsVisible : text.head?.any isVisible = true
  isOneLine : text.any isLineEnd = false
  fits : Text.byteCount text ≤ Listing.maxNameBytes
  isNotDots : text ≠ ['.'] ∧ text ≠ ['.', '.']

theorem FileName.ne_nil (n : FileName) : n.text ≠ [] := by
  intro hnil
  have hstarts := n.startsVisible
  simp [hnil] at hstarts

theorem FileName.stops_isBlank (n : FileName) (rest : Text) : Stops isBlank (n.text ++ rest) := by
  have hstarts := n.startsVisible
  cases ht : n.text with
  | nil => simp [ht] at hstarts
  | cons x t =>
      have hx : isVisible x = true := by simpa [ht] using hstarts
      exact stops_cons (Text.isBlank_eq_false_of_isVisible hx)

structure Entry where
  isDir : Bool
  links : { t : Text // IsWord t }
  user : { t : Text // IsWord t }
  group : { t : Text // IsWord t }
  size : Nat
  size_le : size ≤ Decimal.maxNumber
  modified : Moment
  stamp : Stamp
  name : FileName
  gap : Fin 7 → Nat

theorem shortAt?_monthText {month : Nat} (hfirst : 1 ≤ month) (hlast : month ≤ 12) :
    ∃ m, MonthName.shortAt? (monthText month) = some m ∧ m.month = month ∧
      Language.english ∈ m.languages := by
  have hall : ∀ i < 13, 1 ≤ i → (MonthName.shortAt? (monthText i)).any
      (fun m => m.month == i && m.languages.contains .english) = true := by decide +kernel
  obtain ⟨m, hm, hmonth⟩ := (Option.any_eq_true _ _).1 (hall month (Nat.lt_succ_of_le hlast) hfirst)
  simp only [Bool.and_eq_true, beq_iff_eq, List.contains_iff_mem] at hmonth
  exact ⟨m, hm, hmonth⟩

theorem isWord_monthText {month : Nat} (hfirst : 1 ≤ month) (hlast : month ≤ 12) :
    IsWord (monthText month) := by
  have hall : ∀ i < 13, 1 ≤ i → IsWord (monthText i) := by decide +kernel
  exact hall month (Nat.lt_succ_of_le hlast) hfirst

namespace Entry

def rights (x : Entry) : Text :=
  (if x.isDir then 'd' else '-') :: "rwxr-xr-x".toList

def head (x : Entry) : Text :=
  x.rights ++ (blanks (x.gap 0) ++ (x.links.1 ++ (blanks (x.gap 1) ++
    (x.user.1 ++ (blanks (x.gap 2) ++ (x.group.1 ++ (blanks (x.gap 3) ++
      (Decimal.digits x.size ++ (blanks (x.gap 4) ++
        (monthText x.modified.date.month ++ (blanks (x.gap 5) ++
          (Decimal.digits x.modified.date.day ++ blanks (x.gap 6 + x.stamp.indent)))))))))))))

def line (x : Entry) : Text :=
  x.head ++ x.stamp.text x.modified ++ ' ' :: x.name.text ++ ['\n']

theorem isWord_rights (x : Entry) : IsWord x.rights := by
  unfold rights
  cases x.isDir <;> decide

theorem head?_head (x : Entry) (rest : Text) :
    (x.head ++ rest).head? = some (if x.isDir then 'd' else '-') := by
  simp [head, rights]

end Entry

end LongFormat

end ListingRules
