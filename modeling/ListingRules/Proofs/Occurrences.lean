import Mathlib.Data.List.Forall2
import Mathlib.Order.Bounds.Basic
import ListingRules.Proofs.Bytewise.Text
import ListingRules.Search

namespace ListingRules

open Character (sameLetter)

namespace Text

theorem sameLetters_iff {a b : Text} :
    sameLetters a b = true ↔ List.Forall₂ (fun x y => sameLetter x y = true) a b := by
  induction a generalizing b with
  | nil => cases b <;> simp [sameLetters]
  | cons x a ih =>
      cases b with
      | nil => simp [sameLetters]
      | cons y b => simp [sameLetters, ih]

theorem stripStart?_append {a start : Text} (h : sameLetters a start = true) (b : Text) :
    stripStart? start (a ++ b) = some (a, b) := by
  induction start generalizing a with
  | nil =>
      cases a with
      | nil => rfl
      | cons x a => cases h
  | cons y start ih =>
      cases a with
      | nil => cases h
      | cons x a =>
          simp only [sameLetters, Bool.and_eq_true] at h
          simp [stripStart?, h.1, ih h.2]

def IsPlace (t : Text) (n : Nat) : Prop :=
  ∃ a b, a ++ b = t ∧ byteCount a = n

theorem splitAtByte?_eq_none_iff {n : Nat} {t : Text} :
    splitAtByte? n t = none ↔ ¬ IsPlace t n := by
  rw [Option.eq_none_iff_forall_ne_some]
  simp only [ne_eq, Prod.forall, splitAtByte?_eq_some_iff, IsPlace, not_exists]

theorem exists_append_of_byteCount_le {a b c d : Text} (h : a ++ b = c ++ d)
    (hle : byteCount a ≤ byteCount c) : ∃ e, c = a ++ e ∧ b = e ++ d := by
  rcases List.append_eq_append_iff.1 h with ⟨e, rfl, rfl⟩ | ⟨e, rfl, rfl⟩
  · exact ⟨e, rfl, rfl⟩
  · rw [byteCount_append] at hle
    obtain rfl : e = [] := byteCount_eq_zero_iff.1 (by omega)
    exact ⟨[], by simp, by simp⟩

namespace Occurrence

def start (o : Occurrence) : Nat :=
  byteCount o.before

def stop (o : Occurrence) : Nat :=
  byteCount (o.before ++ o.found)

structure Of (o : Occurrence) (wanted t : Text) : Prop where
  text : o.before ++ o.found ++ o.after = t
  same : List.Forall₂ (fun x y => sameLetter x y = true) o.found wanted

def IsLeftmost (o : Occurrence) (wanted t : Text) : Prop :=
  o.Of wanted t ∧ ∀ p : Occurrence, p.Of wanted t → o.start ≤ p.start

def behind (a : Text) (o : Occurrence) : Occurrence :=
  { o with before := a ++ o.before }

variable {wanted t a b : Text} {o p : Occurrence}

theorem start_behind (a : Text) (o : Occurrence) :
    (o.behind a).start = byteCount a + o.start := by
  simp [start, behind]

theorem Of.behind (h : o.Of wanted t) (a : Text) : (o.behind a).Of wanted (a ++ t) :=
  ⟨by simp [Occurrence.behind, ← h.text], h.same⟩

theorem Of.exists_behind (h : p.Of wanted (a ++ t)) (hle : byteCount a ≤ p.start) :
    ∃ o : Occurrence, o.Of wanted t ∧ p = o.behind a := by
  have htext : a ++ t = p.before ++ (p.found ++ p.after) := by
    rw [← List.append_assoc, h.text]
  obtain ⟨e, he, rfl⟩ := exists_append_of_byteCount_le htext hle
  refine ⟨⟨e, p.found, p.after⟩, ⟨by simp, h.same⟩, ?_⟩
  simp [Occurrence.behind, ← he]

theorem Of.eq (h : o.Of wanted t) (h' : p.Of wanted t) (hstart : o.start = p.start) : o = p := by
  obtain ⟨before, found, after⟩ := o
  obtain ⟨before', found', after'⟩ := p
  have hbytes : byteCount before = byteCount before' := hstart
  have hsplit := splitAtByte?_append before (found ++ after)
  rw [hbytes, ← List.append_assoc, h.text, ← h'.text, List.append_assoc,
    splitAtByte?_append] at hsplit
  obtain ⟨rfl, hrest⟩ := Prod.mk.inj (Option.some.inj hsplit)
  have hlength : found'.length = found.length := h'.same.length_eq.trans h.same.length_eq.symm
  obtain ⟨rfl, rfl⟩ := List.append_inj hrest hlength
  rfl

theorem IsLeftmost.unique (h : o.IsLeftmost wanted t) (h' : p.IsLeftmost wanted t) : o = p :=
  h.1.eq h'.1 (Nat.le_antisymm (h.2 p h'.1) (h'.2 o h.1))

end Occurrence

section Find

variable {wanted t : Text} {o : Occurrence}

theorem of_find? (h : find? wanted t = some o) : o.Of wanted t := by
  obtain ⟨htext, hsame⟩ := append_of_find? h
  exact ⟨htext, sameLetters_iff.1 hsame⟩

theorem Occurrence.Of.exists_tail {c : Char} {p : Occurrence}
    (hs : stripStart? wanted (c :: t) = none) (h : p.Of wanted (c :: t)) :
    ∃ q : Occurrence, q.Of wanted t ∧ p = q.behind [c] := by
  obtain ⟨before, found, after⟩ := p
  cases before with
  | nil =>
      have hfound := stripStart?_append (sameLetters_iff.2 h.same) after
      rw [show found ++ after = c :: t from h.text, hs] at hfound
      cases hfound
  | cons d before =>
      obtain ⟨rfl, htext⟩ := List.cons.inj h.text
      exact ⟨⟨before, found, after⟩, ⟨htext, h.same⟩, rfl⟩

theorem find?_ne_none {p : Occurrence} (h : p.Of wanted t) : find? wanted t ≠ none := by
  induction t generalizing p with
  | nil =>
      have hfound : p.found = [] := (List.append_eq_nil_iff.1 (List.append_eq_nil_iff.1 h.text).1).2
      have hwanted : wanted = [] := by simpa [hfound] using h.same
      simp [find?, hwanted]
  | cons c t ih =>
      cases hs : stripStart? wanted (c :: t) with
      | some x => simp [find?, hs]
      | none =>
          obtain ⟨q, hq, -⟩ := h.exists_tail hs
          simpa [find?, hs] using ih hq

theorem start_le_of_find? (h : find? wanted t = some o) {p : Occurrence} (hp : p.Of wanted t) :
    o.start ≤ p.start := by
  induction t generalizing o p with
  | nil =>
      simp only [find?] at h
      split at h
      · obtain rfl := Option.some.inj h
        exact Nat.zero_le _
      · cases h
  | cons c t ih =>
      cases hs : stripStart? wanted (c :: t) with
      | some x =>
          simp only [find?, hs, Option.some.injEq] at h
          subst h
          exact Nat.zero_le _
      | none =>
          simp only [find?, hs, Option.map_eq_some_iff] at h
          obtain ⟨o, ho, rfl⟩ := h
          obtain ⟨q, hq, rfl⟩ := hp.exists_tail hs
          have ho' : (o.behind [c]).start ≤ (q.behind [c]).start := by
            rw [o.start_behind, q.start_behind]
            exact Nat.add_le_add_left (ih ho hq) _
          exact ho'

theorem find?_eq_some_iff : find? wanted t = some o ↔ o.IsLeftmost wanted t := by
  constructor
  · exact fun h => ⟨of_find? h, fun p => start_le_of_find? h⟩
  · intro h
    obtain ⟨p, hp⟩ := Option.ne_none_iff_exists'.1 (find?_ne_none h.1)
    rw [hp, h.unique ⟨of_find? hp, fun q => start_le_of_find? hp⟩]

theorem find?_eq_none_iff : find? wanted t = none ↔ ∀ o : Occurrence, ¬ o.Of wanted t := by
  constructor
  · exact fun h o ho => find?_ne_none ho h
  · intro h
    rw [Option.eq_none_iff_forall_ne_some]
    exact fun o ho => h o (of_find? ho)

end Find

section FindFrom

variable {wanted t a b : Text} {o p : Occurrence} {start n : Nat}

def startsFrom (wanted t : Text) (start : Nat) : Set Nat :=
  {n | start ≤ n ∧ ∃ o : Occurrence, o.Of wanted t ∧ o.start = n}

theorem findFrom?_append (wanted a b : Text) :
    findFrom? wanted (a ++ b) (byteCount a) =
      (find? wanted b).map fun o => byteCount a + o.start := by
  cases h : find? wanted b <;> simp [findFrom?, splitAtByte?_append, h, Occurrence.start]

theorem findFrom?_of_not_isPlace (h : ¬ IsPlace t start) : findFrom? wanted t start = none := by
  simp [findFrom?, splitAtByte?_eq_none_iff.2 h]

theorem isLeast_startsFrom (h : find? wanted b = some o) :
    IsLeast (startsFrom wanted (a ++ b) (byteCount a)) (byteCount a + o.start) := by
  obtain ⟨hof, hleft⟩ := find?_eq_some_iff.1 h
  refine ⟨⟨Nat.le_add_right _ _, o.behind a, hof.behind a, o.start_behind a⟩, ?_⟩
  rintro n ⟨hle, p, hp, rfl⟩
  obtain ⟨q, hq, rfl⟩ := hp.exists_behind hle
  rw [q.start_behind]
  exact Nat.add_le_add_left (hleft q hq) _

theorem start_lt_of_find?_eq_none (h : find? wanted b = none) (hp : p.Of wanted (a ++ b)) :
    p.start < byteCount a := by
  by_contra hle
  obtain ⟨q, hq, -⟩ := hp.exists_behind (Nat.not_lt.1 hle)
  exact find?_eq_none_iff.1 h q hq

theorem findFrom?_eq_some_iff :
    findFrom? wanted t start = some n ↔
      IsPlace t start ∧ IsLeast (startsFrom wanted t start) n := by
  constructor
  · intro h
    by_cases hplace : IsPlace t start
    · refine ⟨hplace, ?_⟩
      obtain ⟨a, b, rfl, rfl⟩ := hplace
      rw [findFrom?_append, Option.map_eq_some_iff] at h
      obtain ⟨o, ho, rfl⟩ := h
      exact isLeast_startsFrom ho
    · rw [findFrom?_of_not_isPlace hplace] at h
      cases h
  · rintro ⟨⟨a, b, rfl, rfl⟩, hleast⟩
    rw [findFrom?_append, Option.map_eq_some_iff]
    cases hfind : find? wanted b with
    | none =>
        obtain ⟨hle, p, hp, rfl⟩ := hleast.1
        exact absurd (start_lt_of_find?_eq_none hfind hp) (Nat.not_lt.2 hle)
    | some o => exact ⟨o, rfl, (isLeast_startsFrom hfind).unique hleast⟩

theorem findFrom?_eq_none_iff :
    findFrom? wanted t start = none ↔
      ¬ IsPlace t start ∨ ∀ o : Occurrence, o.Of wanted t → o.start < start := by
  by_cases hplace : IsPlace t start
  · obtain ⟨a, b, rfl, rfl⟩ := hplace
    have hplace : IsPlace (a ++ b) (byteCount a) := ⟨a, b, rfl, rfl⟩
    rw [findFrom?_append, Option.map_eq_none_iff]
    constructor
    · exact fun h => .inr fun o ho => start_lt_of_find?_eq_none h ho
    · rintro (hno | hlt)
      · exact absurd hplace hno
      · refine find?_eq_none_iff.2 fun o ho => ?_
        have hstart := hlt _ (ho.behind a)
        rw [o.start_behind] at hstart
        omega
  · simp [findFrom?_of_not_isPlace hplace, hplace]

end FindFrom

/-- A search finds the leftmost occurrence if there is one, and a search through offsets where it
starts and stops. A search from an offset finds the first that does not start before it, unless the
offset is past the end or inside a character. -/
theorem find?_leftmost [PatternEngine] (wanted t : Text) :
    (∀ o, find? wanted t = some o ↔ o.IsLeftmost wanted t) ∧
      (find? wanted t = none ↔ ∀ o : Occurrence, ¬ o.Of wanted t) ∧
      Bytewise.find wanted t = .ok ((find? wanted t).map fun o => (o.start, o.stop)) ∧
      ∀ start,
        (∀ n, (Searcher.substring wanted).findFrom? t start = some n ↔
          IsPlace t start ∧ IsLeast (startsFrom wanted t start) n) ∧
        ((Searcher.substring wanted).findFrom? t start = none ↔
          ¬ IsPlace t start ∨ ∀ o : Occurrence, o.Of wanted t → o.start < start) :=
  ⟨fun _ => find?_eq_some_iff, find?_eq_none_iff, Bytewise.find_eq wanted t,
    fun _ => ⟨fun _ => findFrom?_eq_some_iff, findFrom?_eq_none_iff⟩⟩

example : Bytewise.find "ok".toList "äO\u212A!".toList = .ok (some (2, 6)) := by decide

end Text

end ListingRules
