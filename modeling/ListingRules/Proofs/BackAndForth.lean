import ListingRules.Proofs.CellWrites
import ListingRules.Proofs.KnownText

namespace ListingRules

open Text (isLineEnd)

namespace Cursor

def startOfLine (c : Cursor) : Text :=
  c.behind.takeWhile (! isLineEnd ·)

def Passes (n : Nat) (c d : Cursor) : Prop :=
  ∃ t, t.length = n ∧ (∀ x ∈ t, isLineEnd x = false) ∧ Spans c d t

def mirror (c : Cursor) : Cursor :=
  ⟨c.ahead, c.behind⟩

variable {p : Char → Bool} {n : Nat} {c d : Cursor} {t : Text}

theorem spans_mirror : Spans d.mirror c.mirror t.reverse ↔ Spans c d t := by
  simp only [Spans, mirror, List.reverse_reverse]
  exact and_comm

theorem backward?_eq (n : Nat) (c : Cursor) :
    c.backward? n = (c.mirror.forward? (! isLineEnd ·) n).map mirror := by
  induction n generalizing c with
  | zero => rfl
  | succ n ih =>
      obtain ⟨behind, ahead⟩ := c
      cases behind with
      | nil => rfl
      | cons x behind =>
          cases hx : isLineEnd x with
          | true => simp [backward?, forward?, back?, mirror, hx]
          | false => simpa [backward?, forward?, back?, mirror, hx] using ih ⟨behind, x :: ahead⟩

theorem forward?_eq_some_iff :
    forward? p n c = some d ↔ ∃ t, t.length = n ∧ (∀ x ∈ t, p x = true) ∧ Spans c d t := by
  constructor
  · intro h
    induction n generalizing c with
    | zero =>
        obtain rfl := Option.some.inj h
        exact ⟨[], rfl, by simp, rfl, rfl⟩
    | succ n ih =>
        obtain ⟨behind, ahead⟩ := c
        cases ahead with
        | nil => cases h
        | cons x ahead =>
            cases hx : p x with
            | false => simp [forward?, hx] at h
            | true =>
                simp only [forward?, List.head?_cons, Option.any_some, hx, ↓reduceIte] at h
                obtain ⟨t, rfl, ht, hspans⟩ := ih h
                exact ⟨x :: t, rfl, List.forall_mem_cons.2 ⟨hx, ht⟩,
                  (spans_next (c := ⟨behind, x :: ahead⟩) rfl).trans hspans⟩
  · rintro ⟨t, rfl, ht, hahead, hbehind⟩
    obtain ⟨behind, ahead⟩ := c
    obtain ⟨dbehind, dahead⟩ := d
    obtain rfl : ahead = t ++ dahead := hahead
    obtain rfl : dbehind = t.reverse ++ behind := hbehind
    exact forward?_append ht behind dahead

theorem forward?_eq_none_iff : forward? p n c = none ↔ (c.ahead.takeWhile p).length < n := by
  refine ⟨fun h => ?_, forward?_eq_none⟩
  by_contra hlong
  obtain ⟨behind, ahead⟩ := c
  let t := (ahead.takeWhile p).take n
  have ht : ∀ x ∈ t, p x = true := fun x hx =>
    List.all_eq_true.1 List.all_takeWhile x (List.mem_of_mem_take hx)
  have hlength : t.length = n := List.length_take_of_le (Nat.le_of_not_lt hlong)
  obtain ⟨rest, hrest⟩ : t <+: ahead := (List.take_prefix n _).trans (List.takeWhile_prefix p)
  have hforward := forward?_append ht behind rest
  rw [hrest, hlength, h] at hforward
  cases hforward

theorem forward?_line_iff : forward? (! isLineEnd ·) n c = some d ↔ Passes n c d := by
  simp only [forward?_eq_some_iff, Passes, Bool.not_eq_true']

theorem backward?_eq_some_iff : backward? n c = some d ↔ Passes n d c := by
  have hmirror : backward? n c = some d ↔ c.mirror.forward? (! isLineEnd ·) n = some d.mirror := by
    rw [backward?_eq, Option.map_eq_some_iff]
    constructor
    · rintro ⟨m, hm, rfl⟩
      exact hm
    · intro h
      exact ⟨d.mirror, h, rfl⟩
  rw [hmirror, forward?_line_iff]
  constructor
  · rintro ⟨t, rfl, ht, hspans⟩
    refine ⟨t.reverse, by simp, by simpa using ht, ?_⟩
    rwa [← spans_mirror, List.reverse_reverse]
  · rintro ⟨t, rfl, ht, hspans⟩
    exact ⟨t.reverse, by simp, by simpa using ht, spans_mirror.2 hspans⟩

theorem backward?_eq_none_iff : backward? n c = none ↔ c.startOfLine.length < n := by
  rw [backward?_eq, Option.map_eq_none_iff, forward?_eq_none_iff]
  rfl

end Cursor

open Cursor (Passes)

namespace Listing

def takeAll (target : Option ColumnRef) (n : Nat) : Call :=
  ⟨.all, target.toList.map (fun c => .operand (.column c)) ++ [.operand (.number n)]⟩

def goBack (n : Nat) : Call :=
  ⟨.back, [.operand (.number n)]⟩

variable {e : Surroundings} {a b : Attempt} {n : Nat} {target : Option ColumnRef}

theorem apply_takeAll (e : Surroundings) (a : Attempt) (target : Option ColumnRef) (n : Nat) :
    a.apply e (takeAll target n) =
      (a.moveTo (a.place.forward? (! isLineEnd ·) n)).andThen
        (Attempt.store e.columns (a.place.ahead.take n) target) := by
  have hn : ¬ (n : Int) < 0 := by omega
  have hchars : a.takeChars e.columns n target =
      (a.moveTo (a.place.forward? (! isLineEnd ·) n)).andThen
        (Attempt.store e.columns (a.place.ahead.take n) target) := by
    rw [Attempt.takeChars, if_neg hn, Int.toNat_natCast]
  rw [← hchars]
  cases target <;> rfl

theorem apply_goBack (e : Surroundings) (a : Attempt) (n : Nat) :
    a.apply e (goBack n) = a.moveTo (a.place.backward? n) := by
  have hn : ¬ (n : Int) < 0 := by omega
  simp only [goBack, Attempt.apply, if_neg hn, Int.toNat_natCast]

theorem Attempt.moveTo_eq_continues_iff {o : Option Cursor} :
    a.moveTo o = .continues b ↔ ∃ c, o = some c ∧ b = { a with place := c } := by
  cases o <;> simp [moveTo, eq_comm]

theorem Attempt.moveTo_eq_fails_iff {o : Option Cursor} :
    a.moveTo o = .fails a.languages ↔ o = none := by
  cases o <;> simp [moveTo]

theorem Attempt.place_of_store {s : ColumnSet} {t : Text}
    (h : a.store s t target = .continues b) : b.place = a.place := by
  cases target with
  | none =>
      obtain rfl := Outcome.continues.inj h
      rfl
  | some c =>
      have hset : a.setText s t c = .continues b := h
      obtain ⟨_, _, _, _, -, -, -, -, rfl⟩ := exists_of_modify hset
      rfl

theorem Attempt.store_ne_fails {s : ColumnSet} {t : Text} (a : Attempt) (languages : Languages) :
    a.store s t target ≠ .fails languages := by
  cases target with
  | none => simp [store]
  | some c =>
      simp only [store, setText, modify]
      split
      · split <;> simp
      · simp

theorem passes_of_takeAll (h : a.apply e (takeAll target n) = .continues b) :
    Passes n a.place b.place := by
  rw [apply_takeAll] at h
  obtain ⟨c, hc, hstore⟩ := Outcome.exists_of_andThen h
  obtain ⟨d, hd, rfl⟩ := Attempt.moveTo_eq_continues_iff.1 hc
  rw [Attempt.place_of_store hstore]
  exact Cursor.forward?_line_iff.1 hd

theorem goBack_eq_continues_iff :
    a.apply e (goBack n) = .continues b ↔
      Passes n b.place a.place ∧ b = { a with place := b.place } := by
  rw [apply_goBack, Attempt.moveTo_eq_continues_iff]
  constructor
  · rintro ⟨d, hd, rfl⟩
    exact ⟨Cursor.backward?_eq_some_iff.1 hd, rfl⟩
  · rintro ⟨hpasses, hb⟩
    exact ⟨b.place, Cursor.backward?_eq_some_iff.2 hpasses, hb⟩

theorem takeAll_of_passes (h : Passes n a.place b.place) :
    a.apply e (takeAll target n) =
      Attempt.store e.columns (a.place.ahead.take n) target { a with place := b.place } := by
  rw [apply_takeAll, Cursor.forward?_line_iff.2 h]
  rfl

theorem takeAll_eq_fails_iff :
    a.apply e (takeAll target n) = .fails a.languages ↔ a.place.restOfLine.length < n := by
  rw [apply_takeAll, Cursor.restOfLine, ← Cursor.forward?_eq_none_iff]
  cases a.place.forward? (! isLineEnd ·) n with
  | none => simp [Attempt.moveTo, Outcome.andThen]
  | some d =>
      simp only [reduceCtorEq, iff_false]
      exact Attempt.store_ne_fails _ _

theorem goBack_eq_fails_iff :
    a.apply e (goBack n) = .fails a.languages ↔ a.place.startOfLine.length < n := by
  rw [apply_goBack, Attempt.moveTo_eq_fails_iff, Cursor.backward?_eq_none_iff]

theorem goBack_of_takeAll (h : a.apply e (takeAll target n) = .continues b) :
    b.apply e (goBack n) = .continues { b with place := a.place } := by
  have hpasses := passes_of_takeAll h
  exact goBack_eq_continues_iff.2 ⟨hpasses, rfl⟩

theorem takeAll_of_goBack (h : a.apply e (goBack n) = .continues b) :
    b.apply e (takeAll target n) = a.store e.columns (b.place.ahead.take n) target := by
  obtain ⟨hpasses, hb⟩ := goBack_eq_continues_iff.1 h
  rw [takeAll_of_passes hpasses, hb]

theorem takeAll_none_iff :
    a.apply e (takeAll none n) = .continues b ↔ b.apply e (goBack n) = .continues a := by
  constructor
  · intro h
    have hb : b = { a with place := b.place } := by
      rw [takeAll_of_passes (passes_of_takeAll h)] at h
      exact (Outcome.continues.inj h).symm
    rw [goBack_of_takeAll h, hb]
  · intro h
    rw [takeAll_of_goBack h]
    rfl

theorem exists_takeAll_iff :
    (∃ b, a.apply e (takeAll none n) = .continues b) ↔ n ≤ a.place.restOfLine.length := by
  rw [apply_takeAll, Cursor.restOfLine, ← Nat.not_lt, ← Cursor.forward?_eq_none_iff]
  cases a.place.forward? (! isLineEnd ·) n <;>
    simp [Attempt.moveTo, Outcome.andThen, Attempt.store]

theorem exists_goBack_iff :
    (∃ b, a.apply e (goBack n) = .continues b) ↔ n ≤ a.place.startOfLine.length := by
  rw [apply_goBack, ← Nat.not_lt, ← Cursor.backward?_eq_none_iff]
  cases a.place.backward? n <;> simp [Attempt.moveTo]

/-- Characters taken and gone back over, or the other way round, lead to where it began. Only a
line with too few characters makes either fail. -/
theorem back_undoes_all (e : Surroundings) (a b : Attempt) (n : Nat) (target : Option ColumnRef) :
    (a.apply e (takeAll target n) = .continues b →
        Passes n a.place b.place ∧
          b.apply e (goBack n) = .continues { b with place := a.place }) ∧
      (a.apply e (goBack n) = .continues b →
        Passes n b.place a.place ∧
          b.apply e (takeAll target n) = a.store e.columns (b.place.ahead.take n) target) ∧
      (a.apply e (takeAll none n) = .continues b ↔ b.apply e (goBack n) = .continues a) ∧
      (a.apply e (takeAll target n) = .fails a.languages ↔ a.place.restOfLine.length < n) ∧
      (a.apply e (goBack n) = .fails a.languages ↔ a.place.startOfLine.length < n) ∧
      ((∃ b, a.apply e (takeAll none n) = .continues b) ↔ n ≤ a.place.restOfLine.length) ∧
      ((∃ b, a.apply e (goBack n) = .continues b) ↔ n ≤ a.place.startOfLine.length) :=
  ⟨fun h => ⟨passes_of_takeAll h, goBack_of_takeAll h⟩,
    fun h => ⟨(goBack_eq_continues_iff.1 h).1, takeAll_of_goBack h⟩, takeAll_none_iff,
    takeAll_eq_fails_iff, goBack_eq_fails_iff, exists_takeAll_iff, exists_goBack_iff⟩

end Listing

end ListingRules
