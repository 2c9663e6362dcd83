import ListingRules.Text.Search
import ListingRules.Text.Blank

namespace ListingRules

inductive Language where
  | english
  | german
  | norwegian
  | swedish
  deriving DecidableEq, Repr

namespace Language

def all : List Language :=
  [english, german, norwegian, swedish]

def name : Language → String
  | english => "english"
  | german => "german"
  | norwegian => "norwegian"
  | swedish => "swedish"

end Language

/-- The languages that month names may be in, listed in the order of `Language.all`. -/
abbrev Languages := List Language

namespace Languages

def all : Languages :=
  Language.all

def ofList (ls : List Language) : Languages :=
  Language.all.filter (ls.contains ·)

def meet? (a b : Languages) : Option Languages :=
  if a.any (b.contains ·) then some (a.filter (b.contains ·)) else none

theorem meet?_eq_some {a b c : Languages} (h : meet? a b = some c) :
    c ≠ [] ∧ ∀ l, l ∈ c ↔ l ∈ a ∧ l ∈ b := by
  simp only [meet?] at h
  split at h
  · rename_i hab
    obtain rfl := Option.some.inj h
    obtain ⟨l, hl, hb⟩ := List.any_eq_true.1 hab
    refine ⟨List.ne_nil_of_mem (List.mem_filter.2 ⟨hl, hb⟩), fun l => ?_⟩
    simp
  · simp at h

end Languages

structure MonthName where
  name : Text
  month : Nat
  languages : Languages
  deriving DecidableEq, Repr

namespace MonthName

open ListingRules.Language

def short : List MonthName :=
  [⟨['j', 'a', 'n'], 1, all⟩, ⟨['f', 'e', 'b'], 2, all⟩,
   ⟨['m', 'a', 'r'], 3, [english, norwegian, swedish]⟩, ⟨['a', 'p', 'r'], 4, all⟩,
   ⟨['m', 'a', 'y'], 5, [english]⟩, ⟨['j', 'u', 'n'], 6, all⟩, ⟨['j', 'u', 'l'], 7, all⟩,
   ⟨['a', 'u', 'g'], 8, all⟩, ⟨['s', 'e', 'p'], 9, all⟩, ⟨['o', 'c', 't'], 10, [english]⟩,
   ⟨['n', 'o', 'v'], 11, all⟩, ⟨['d', 'e', 'c'], 12, [english, swedish]⟩,
   ⟨['m', 'ä', 'r'], 3, [german]⟩, ⟨['m', 'a', 'i'], 5, [german, norwegian]⟩,
   ⟨['o', 'k', 't'], 10, [german, norwegian, swedish]⟩, ⟨['d', 'e', 'z'], 12, [german]⟩,
   ⟨['d', 'e', 's'], 12, [norwegian]⟩, ⟨['m', 'a', 'j'], 5, [swedish]⟩]

def long : List MonthName :=
  [⟨['J', 'a', 'n', '.'], 1, [german]⟩, ⟨['F', 'e', 'b', '.'], 2, [german]⟩,
   ⟨['M', 'ä', 'r', 'z'], 3, [german]⟩, ⟨['A', 'p', 'r', '.'], 4, [german]⟩,
   ⟨['M', 'a', 'i'], 5, [german]⟩, ⟨['J', 'u', 'n', 'i'], 6, [german]⟩,
   ⟨['J', 'u', 'l', 'i'], 7, [german]⟩, ⟨['A', 'u', 'g', '.'], 8, [german]⟩,
   ⟨['S', 'e', 'p', 't', '.'], 9, [german]⟩, ⟨['O', 'k', 't', '.'], 10, [german]⟩,
   ⟨['N', 'o', 'v', '.'], 11, [german]⟩, ⟨['D', 'e', 'z', '.'], 12, [german]⟩]

def readShort? (word : Text) (languages : Languages) : Option (Nat × Languages) := do
  let m ← short.find? fun m => Text.sameLetters word m.name
  let left ← languages.meet? m.languages
  return (m.month, left)

def readLong? (word : Text) (languages : Languages) : Option (Nat × Nat × Languages) := do
  let m ← long.find? fun m => (Text.stripStart? m.name word).isSome
  let left ← languages.meet? m.languages
  return (m.month, m.name.length, left)

def splitList (isEnd : Char → Bool) (names : Text) : List Text :=
  (names.splitOnP isEnd).take 12

def readShortFrom? (names word : Text) : Option Nat :=
  ((splitList Text.isSpace names).findIdx? (Text.sameLetters word)).map (· + 1)

def readLongFrom? (names word : Text) : Option (Nat × Nat) := do
  let (name, i) ← (splitList (· == ' ') names).zipIdx.find? fun (name, _) =>
    (Text.stripStart? name word).isSome
  return (i + 1, name.length)

theorem le_of_readShort? {word : Text} {languages left : Languages} {month : Nat}
    (h : readShort? word languages = some (month, left)) : month ≤ 12 := by
  have hshort : ∀ m ∈ short, m.month ≤ 12 := by decide
  simp only [readShort?, Option.bind_eq_bind, Option.bind_eq_some_iff, Option.pure_def,
    Option.some.injEq, Prod.mk.injEq] at h
  obtain ⟨m, hm, _, -, rfl, -⟩ := h
  exact hshort m (List.mem_of_find?_eq_some hm)

theorem le_of_readShortFrom? {names word : Text} {month : Nat}
    (h : readShortFrom? names word = some month) : month ≤ 12 := by
  obtain ⟨i, hi, rfl⟩ := Option.map_eq_some_iff.1 h
  obtain ⟨hlt, -⟩ := List.findIdx?_eq_some_iff_getElem.1 hi
  exact Nat.le_trans hlt (List.length_take_le _ _)

theorem length_le_of_stripStart? {name word : Text}
    (h : (Text.stripStart? name word).isSome = true) : name.length ≤ word.length := by
  obtain ⟨⟨a, b⟩, hs⟩ := Option.isSome_iff_exists.1 h
  obtain ⟨rfl, hsame⟩ := Text.append_of_stripStart? hs
  rw [List.length_append, Text.length_eq_of_sameLetters hsame]
  exact Nat.le_add_right _ _

theorem le_of_readLong? {word : Text} {languages left : Languages} {month length : Nat}
    (h : readLong? word languages = some (month, length, left)) :
    month ≤ 12 ∧ length ≤ word.length := by
  have hlong : ∀ m ∈ long, m.month ≤ 12 := by decide
  simp only [readLong?, Option.bind_eq_bind, Option.bind_eq_some_iff, Option.pure_def,
    Option.some.injEq, Prod.mk.injEq] at h
  obtain ⟨m, hm, _, -, rfl, rfl, -⟩ := h
  have hstart : (Text.stripStart? m.name word).isSome = true := by
    simpa using List.find?_some hm
  exact ⟨hlong m (List.mem_of_find?_eq_some hm), length_le_of_stripStart? hstart⟩

theorem le_of_readLongFrom? {names word : Text} {month length : Nat}
    (h : readLongFrom? names word = some (month, length)) :
    month ≤ 12 ∧ length ≤ word.length := by
  simp only [readLongFrom?, Option.bind_eq_bind, Option.bind_eq_some_iff, Prod.exists,
    Option.pure_def, Option.some.injEq, Prod.mk.injEq] at h
  obtain ⟨name, i, hi, rfl, rfl⟩ := h
  have hlt := (List.mem_zipIdx (List.mem_of_find?_eq_some hi)).2.1
  have hlist : (splitList (· == ' ') names).length ≤ 12 := List.length_take_le _ _
  have hstart : (Text.stripStart? name word).isSome = true := by
    simpa using List.find?_some hi
  exact ⟨by omega, length_le_of_stripStart? hstart⟩

end MonthName

end ListingRules
