import ListingRules.Text.Basic

namespace ListingRules.Decimal

def maxNumber : Nat := 9223372036854775807

def minNumber : Int := -9223372036854775808

def digitValue (c : Char) : Nat :=
  c.toNat - '0'.toNat

def value (digits : Text) : Nat :=
  digits.foldl (fun n c => 10 * n + digitValue c) 0

def read? (digits : Text) : Option Nat :=
  if digits.isEmpty || !digits.all Char.isDigit then none
  else if value digits ≤ maxNumber then some (value digits) else none

theorem read?_le {digits : Text} {n : Nat} (h : read? digits = some n) : n ≤ maxNumber := by
  simp only [read?] at h
  split at h
  · simp at h
  · split at h
    · rename_i hn
      obtain rfl := Option.some.inj h
      exact hn
    · simp at h

def digits (n : Nat) : Text :=
  Nat.toDigits 10 n

theorem isDigit_of_mem_digits {n : Nat} {c : Char} (h : c ∈ digits n) : c.isDigit = true :=
  Nat.isDigit_of_mem_toDigits (by decide) (by decide) h

theorem digits_ne_nil (n : Nat) : digits n ≠ [] :=
  Nat.toDigits_ne_nil

theorem value_digits (n : Nat) : value (digits n) = n :=
  Nat.ofDigitChars_toDigits (by decide) (by decide)

def ofInt (n : Int) : Text :=
  if n < 0 then '-' :: digits n.natAbs else digits n.natAbs

def padded (width n : Nat) : Text :=
  List.replicate (width - (digits n).length) '0' ++ digits n

theorem isDigit_of_mem_padded {width n : Nat} {c : Char} (h : c ∈ padded width n) :
    c.isDigit = true := by
  rcases List.mem_append.1 h with hzero | hdigit
  · rw [List.eq_of_mem_replicate hzero]
    decide
  · exact isDigit_of_mem_digits hdigit

theorem padded_ne_nil (width n : Nat) : padded width n ≠ [] := by
  simp [padded, digits_ne_nil]

theorem value_padded (width n : Nat) : value (padded width n) = n := by
  have hzeros (k : Nat) (t : Text) : value (List.replicate k '0' ++ t) = value t := by
    induction k with
    | zero => rfl
    | succ k ih => exact ih
  rw [padded, hzeros, value_digits]

theorem read?_padded {n : Nat} (width : Nat) (hn : n ≤ maxNumber) :
    read? (padded width n) = some n := by
  have hall : (padded width n).all Char.isDigit = true :=
    List.all_eq_true.2 fun _ h => isDigit_of_mem_padded h
  simp [read?, hall, padded_ne_nil, value_padded, hn]

theorem read?_digits {n : Nat} (hn : n ≤ maxNumber) : read? (digits n) = some n := by
  simpa [padded] using read?_padded 0 hn

theorem isDigit_of_read? {t : Text} {n : Nat} (h : read? t = some n) :
    t ≠ [] ∧ ∀ x ∈ t, x.isDigit = true := by
  simp only [read?] at h
  split at h
  · simp at h
  · rename_i ht
    simpa using ht

def hexDigits (n : Nat) : Text :=
  Nat.toDigits 16 n

end ListingRules.Decimal
