import Mathlib.Data.Option.Basic
import ListingRules.Listing.Reader
import ListingRules.Proofs.Tokens

namespace ListingRules

open Text (isLineEnd isBlank isVisible)

def Inner (p : Char → Bool) : Prop :=
  p '\r' = false ∧ p '\n' = false

theorem Inner.eq_false {p : Char → Bool} {x : Char} (h : Inner p) (hx : isLineEnd x = true) :
    p x = false := by
  simp only [isLineEnd, Bool.or_eq_true, beq_iff_eq] at hx
  rcases hx with rfl | rfl
  · exact h.1
  · exact h.2

theorem inner_notLineEnd : Inner (! isLineEnd ·) :=
  ⟨by decide, by decide⟩

theorem inner_isDigit : Inner Char.isDigit :=
  ⟨by decide, by decide⟩

theorem inner_isBlank : Inner isBlank :=
  ⟨by decide, by decide⟩

theorem inner_isVisible : Inner isVisible :=
  ⟨by decide, by decide⟩

theorem inner_isAlphabetic : Inner Character.isAlphabetic :=
  ⟨by decide, by decide⟩

theorem inner_isAlphanumeric : Inner Character.isAlphanumeric :=
  ⟨by decide, by decide⟩

structure Margin where
  before : Text
  after : Text
  stops_before : Stops (! isLineEnd ·) before
  stops_after : Stops (! isLineEnd ·) after

theorem Margin.after_cases (m : Margin) :
    m.after = [] ∨ ∃ t, m.after = '\r' :: t ∨ m.after = '\n' :: t := by
  cases h : m.after with
  | nil => exact .inl rfl
  | cons x t =>
      have hx : isLineEnd x = true := by
        simpa using m.stops_after x (by simp [h])
      simp only [isLineEnd, Bool.or_eq_true, beq_iff_eq] at hx
      exact .inr ⟨t, hx.imp (congrArg (· :: t)) (congrArg (· :: t))⟩

theorem Stops.of_inner {p : Char → Bool} {t : Text} (hp : Inner p)
    (h : Stops (! isLineEnd ·) t) : Stops p t :=
  fun x hx => hp.eq_false (by simpa using h x hx)

namespace Cursor

def within (m : Margin) (c : Cursor) : Cursor :=
  ⟨c.behind ++ m.before, c.ahead ++ m.after⟩

variable {m : Margin} {c d : Cursor} {p : Char → Bool}

@[simp] theorem behind_within (m : Margin) (c : Cursor) :
    (c.within m).behind = c.behind ++ m.before := rfl

@[simp] theorem ahead_within (m : Margin) (c : Cursor) :
    (c.within m).ahead = c.ahead ++ m.after := rfl

theorem any_head?_within (hp : Inner p) (m : Margin) (c : Cursor) :
    (c.within m).ahead.head?.any p = c.ahead.head?.any p := by
  obtain ⟨b, a⟩ := c
  cases a with
  | cons x a => rfl
  | nil =>
      have hs := m.stops_after.of_inner hp
      cases hx : m.after.head? with
      | none => simp [hx]
      | some x => simp [hx, hs x hx]

theorem head?_within_eq_some {x : Char} (hx : isLineEnd x = false) :
    (c.within m).ahead.head? = some x ↔ c.ahead.head? = some x := by
  obtain ⟨b, a⟩ := c
  cases a with
  | cons y a => rfl
  | nil =>
      refine ⟨fun h => ?_, fun h => by simp at h⟩
      have hend := m.stops_after x (by simpa using h)
      simp [hx] at hend

theorem nextIsAlphabetic_within (m : Margin) (c : Cursor) :
    (c.within m).nextIsAlphabetic = c.nextIsAlphabetic :=
  any_head?_within inner_isAlphabetic m c

theorem restOfLine_within (m : Margin) (c : Cursor) : (c.within m).restOfLine = c.restOfLine :=
  takeWhile_before_stops m.stops_after c.ahead

theorem next_within (m : Margin) (h : c.ahead ≠ []) : (c.within m).next = c.next.within m := by
  obtain ⟨b, a⟩ := c
  cases a with
  | nil => exact absurd rfl h
  | cons x a => rfl

theorem skipWhile_within (hp : Inner p) (m : Margin) (c : Cursor) :
    (c.within m).skipWhile p = (c.skipWhile p).within m := by
  have hs := m.stops_after.of_inner hp
  simp [skipWhile, within, takeWhile_before_stops hs, dropWhile_before_stops hs]

theorem skipWhile_within_of_not_all (h : ¬ ∀ x ∈ c.ahead, p x = true) (m : Margin) :
    (c.within m).skipWhile p = (c.skipWhile p).within m := by
  obtain ⟨b, a⟩ := c
  obtain ⟨u, x, v, rfl, hu, hx⟩ := exists_stop h
  have hplace : (⟨b, u ++ x :: v⟩ : Cursor).within m =
      ⟨b ++ m.before, u ++ x :: (v ++ m.after)⟩ := by
    simp [within]
  rw [hplace, skipWhile_append _ hu (stops_cons hx), skipWhile_append b hu (stops_cons hx)]
  simp [within]

theorem takeWhile_within (hp : Inner p) (m : Margin) (c : Cursor) :
    (c.within m).ahead.takeWhile p = c.ahead.takeWhile p :=
  takeWhile_before_stops (m.stops_after.of_inner hp) c.ahead

theorem advance_within {n : Nat} (m : Margin) (h : n ≤ c.ahead.length) :
    (c.within m).advance n = (c.advance n).within m := by
  induction n generalizing c with
  | zero => rfl
  | succ n ih =>
      obtain ⟨b, a⟩ := c
      cases a with
      | nil => simp at h
      | cons x a => exact ih (c := ⟨x :: b, a⟩) (Nat.le_of_succ_le_succ h)

theorem ne_nil_of_head? {x : Char} (h : c.ahead.head? = some x) : c.ahead ≠ [] := by
  rintro hnil
  simp [hnil] at h

theorem expect?_within {x : Char} (hx : isLineEnd x = false) (m : Margin) (c : Cursor) :
    (c.within m).expect? x = (c.expect? x).map (within m) := by
  simp only [expect?, head?_within_eq_some hx]
  split
  · rename_i h
    simp [next_within m (ne_nil_of_head? h)]
  · rfl

theorem forward?_within (hp : Inner p) (m : Margin) (n : Nat) (c : Cursor) :
    forward? p n (c.within m) = (forward? p n c).map (within m) := by
  induction n generalizing c with
  | zero => rfl
  | succ n ih =>
      simp only [forward?, any_head?_within hp]
      split
      · rename_i h
        have hne : c.ahead ≠ [] := by
          rintro hnil
          simp [hnil] at h
        rw [next_within m hne, ih]
      · rfl

theorem back?_within (m : Margin) (c : Cursor) :
    (c.within m).back? = c.back?.map (within m) := by
  obtain ⟨b, a⟩ := c
  cases b with
  | cons x b =>
      simp only [back?, within, List.cons_append]
      split <;> rfl
  | nil =>
      have hs := m.stops_before
      simp only [back?, within, List.nil_append, Option.map_none]
      split
      · rfl
      · rename_i x b hb
        have hx := hs x (by simp [hb])
        simp only [Bool.not_eq_false'] at hx
        rw [if_pos hx]

theorem backward?_within (m : Margin) (n : Nat) (c : Cursor) :
    backward? n (c.within m) = (backward? n c).map (within m) := by
  induction n generalizing c with
  | zero => rfl
  | succ n ih =>
      simp only [backward?, back?_within]
      cases c.back? with
      | none => rfl
      | some d => exact ih d

def readWithin {α : Type} (m : Margin) (r : α × Cursor) : α × Cursor :=
  (r.1, r.2.within m)

theorem digits?_within (m : Margin) (c : Cursor) :
    (c.within m).digits? = c.digits?.map (readWithin m) := by
  simp only [digits?, takeWhile_within inner_isDigit, skipWhile_within inner_isDigit,
    Option.map_map]
  rfl

theorem sign_within (m : Margin) (c : Cursor) : (c.within m).sign = readWithin m c.sign := by
  obtain ⟨b, a⟩ := c
  cases a with
  | cons x a =>
      simp only [sign, within, List.cons_append, List.head?_cons]
      split <;> rfl
  | nil => rcases m.after_cases with h | ⟨t, h | h⟩ <;> simp [sign, within, readWithin, h]

theorem signedDigits?_within (m : Margin) (c : Cursor) :
    (c.within m).signedDigits? = c.signedDigits?.map (readWithin m) := by
  simp only [signedDigits?, sign_within, readWithin, digits?_within, Option.map_map]
  rfl

theorem bind_within {α β γ δ : Type} {x : Option α} {g : α → β} {k : β → Option δ}
    {f : α → Option γ} {g' : γ → δ} (h : ∀ r, k (g r) = (f r).map g') :
    (x.map g).bind k = (x.bind f).map g' := by
  cases x with
  | none => rfl
  | some r => exact h r

theorem guarded_within {γ δ : Type} {q : Prop} [Decidable q] {k : Unit → Option δ}
    {f : Unit → Option γ} {g : γ → δ} (h : k () = (f ()).map g) :
    (guard q : Option Unit).bind k = ((guard q : Option Unit).bind f).map g := by
  by_cases hq : q
  · simpa [guard, hq] using h
  · rw [guard, if_neg hq]
    rfl

theorem separatedDigits?_within {separators : Text} (hs : ∀ x ∈ separators, isLineEnd x = false)
    (m : Margin) (c : Cursor) :
    (c.within m).separatedDigits? separators =
      (c.separatedDigits? separators).map (readWithin m) := by
  have hcr : separators.contains '\r' = false :=
    Bool.eq_false_iff.2 fun h => by simpa [isLineEnd] using hs '\r' (by simpa using h)
  have hlf : separators.contains '\n' = false :=
    Bool.eq_false_iff.2 fun h => by simpa [isLineEnd] using hs '\n' (by simpa using h)
  have hpart : Inner fun x => x.isDigit || separators.contains x := by
    constructor <;> simp [hcr, hlf, -List.contains_eq_mem]
  have hstart : Inner fun x => (x == '+' || x == '-') || (x.isDigit || separators.contains x) := by
    constructor <;> simp [hcr, hlf, -List.contains_eq_mem]
  have hskip : Inner fun x => !(x == '+' || x == '-') && !x.isDigit && separators.contains x := by
    constructor <;> simp [hcr, hlf, -List.contains_eq_mem]
  simp only [separatedDigits?, any_head?_within hstart, skipWhile_within hskip, sign_within,
    readWithin, takeWhile_within hpart, skipWhile_within hpart]
  exact guarded_within (guarded_within rfl)

theorem seconds?_within (m : Margin) (c : Cursor) :
    (c.within m).seconds? = c.seconds?.map fun r => (r.1, r.2.1, r.2.2.within m) := by
  have hcolon : isLineEnd ':' = false := by decide
  have hpoint : isLineEnd '.' = false := by decide
  simp only [seconds?, expect?_within hcolon]
  cases c.expect? ':' with
  | none => rfl
  | some c₁ =>
      simp only [Option.map_some, Option.bind_eq_bind, digits?_within]
      refine bind_within fun ⟨second, c₂⟩ => ?_
      simp only [readWithin, expect?_within hpoint]
      cases c₂.expect? '.' with
      | none => rfl
      | some c₃ =>
          simp only [Option.map_some, digits?_within]
          exact bind_within fun ⟨milli, c₄⟩ => rfl

theorem halfOfDay_within (m : Margin) (hour : Nat) (c : Cursor) :
    (c.within m).halfOfDay hour = readWithin m (c.halfOfDay hour) := by
  have hm (d : Cursor) :
      (if (d.within m).ahead.head?.map Char.toLower = some 'm' then (d.within m).next
        else d.within m) =
      (if d.ahead.head?.map Char.toLower = some 'm' then d.next else d).within m := by
    obtain ⟨b, a⟩ := d
    cases a with
    | cons x a =>
        by_cases hx : x.toLower = 'm' <;> simp [within, hx]
    | nil => rcases m.after_cases with h | ⟨t, h | h⟩ <;> simp [within, h]
  obtain ⟨b, a⟩ := c
  cases a with
  | nil => rcases m.after_cases with h | ⟨t, h | h⟩ <;> simp [halfOfDay, within, readWithin, h]
  | cons x a =>
      have hx : (⟨b, x :: a⟩ : Cursor).within m = ⟨b ++ m.before, x :: (a ++ m.after)⟩ := rfl
      simp only [halfOfDay, hx, List.head?_cons, Option.map_some]
      split
      · exact congrArg (hour, ·) (hm ⟨x :: b, a⟩)
      · exact congrArg (_, ·) (hm ⟨x :: b, a⟩)
      · rfl

theorem time?_within (m : Margin) (c : Cursor) :
    (c.within m).time? = c.time?.map (readWithin m) := by
  have hcolon : isLineEnd ':' = false := by decide
  simp only [time?, Option.bind_eq_bind, digits?_within]
  refine bind_within fun ⟨hour, c₁⟩ => guarded_within ?_
  simp only [readWithin, expect?_within hcolon]
  refine bind_within fun c₂ => ?_
  simp only [digits?_within]
  refine bind_within fun ⟨minute, c₃⟩ => ?_
  simp only [readWithin, seconds?_within]
  refine bind_within fun ⟨second, milli, c₄⟩ => ?_
  simp only [halfOfDay_within, readWithin, any_head?_within inner_isAlphanumeric]
  refine guarded_within ?_
  cases Time.ofParts? (c₄.halfOfDay hour).1 minute second milli <;> rfl

theorem yearOrTime?_within (m : Margin) (c : Cursor) :
    (c.within m).yearOrTime? = c.yearOrTime?.map (readWithin m) := by
  have hcolon : isLineEnd ':' = false := by decide
  simp only [yearOrTime?, Option.bind_eq_bind, digits?_within]
  refine bind_within fun r => ?_
  obtain ⟨first, c₁⟩ := r
  simp only [readWithin, head?_within_eq_some hcolon, nextIsAlphabetic_within]
  split
  · rename_i h
    simp only [next_within m (ne_nil_of_head? h.2), digits?_within]
    refine bind_within fun r => ?_
    obtain ⟨minute, c₂⟩ := r
    simp only [readWithin, nextIsAlphabetic_within]
    refine guarded_within ?_
    cases Time.ofParts? first minute 0 0 <;> rfl
  · exact guarded_within rfl

theorem device?_within (m : Margin) (c : Cursor) :
    (c.within m).device? = c.device?.map (within m) := by
  have hcomma : isLineEnd ',' = false := by decide
  simp only [device?, Option.bind_eq_bind, any_head?_within inner_isDigit,
    skipWhile_within inner_isDigit, skipWhile_within inner_isBlank, expect?_within hcomma]
  refine guarded_within (bind_within fun c₁ => ?_)
  simp only [any_head?_within inner_isDigit, skipWhile_within inner_isDigit,
    skipWhile_within inner_isBlank, nextIsAlphabetic_within]
  exact guarded_within (guarded_within rfl)

end Cursor

end ListingRules
