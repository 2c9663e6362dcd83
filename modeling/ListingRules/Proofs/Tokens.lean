import ListingRules.Text.Cursor

namespace ListingRules

def Stops (p : Char → Bool) (t : Text) : Prop :=
  ∀ x ∈ t.head?, p x = false

theorem stops_cons {p : Char → Bool} {x : Char} {t : Text} (h : p x = false) :
    Stops p (x :: t) := by
  intro y hy
  obtain rfl := Option.some.inj hy
  exact h

theorem stops_iff {p : Char → Bool} {t : Text} : Stops p t ↔ t.head?.any p = false := by
  cases t with
  | nil => simp [Stops]
  | cons x t => simp [Stops]

instance (p : Char → Bool) (t : Text) : Decidable (Stops p t) :=
  decidable_of_iff _ stops_iff.symm

theorem Stops.mono {p q : Char → Bool} {t : Text} (h : Stops p t)
    (hpq : ∀ x, q x = true → p x = true) : Stops q t := by
  intro x hx
  cases hq : q x with
  | false => rfl
  | true => exact absurd (hpq x hq) (by simp [h x hx])

theorem Stops.append {p : Char → Bool} {a b : Text} (ha : Stops p a) (hb : Stops p b) :
    Stops p (a ++ b) := by
  cases a with
  | nil => exact hb
  | cons x a => exact stops_cons (ha x rfl)

theorem Stops.takeWhile {p : Char → Bool} {t : Text} (h : Stops p t) (q : Char → Bool) :
    Stops p (t.takeWhile q) := by
  cases t with
  | nil => exact h
  | cons x t =>
      cases hx : q x with
      | false => simp [Stops, hx]
      | true => simpa [Stops, hx] using h

theorem takeWhile_of_stops {p : Char → Bool} {t : Text} (h : Stops p t) : t.takeWhile p = [] := by
  cases t with
  | nil => rfl
  | cons x t => simp [h x rfl]

theorem stops_of_takeWhile {p : Char → Bool} {t : Text} (h : t.takeWhile p = []) : Stops p t := by
  cases t with
  | nil => simp [Stops]
  | cons x t => exact stops_cons (by simpa [List.takeWhile_cons] using h)

theorem dropWhile_of_stops {p : Char → Bool} {t : Text} (h : Stops p t) : t.dropWhile p = t := by
  cases t with
  | nil => rfl
  | cons x t => simp [h x rfl]

theorem stops_dropWhile (p : Char → Bool) (t : Text) : Stops p (t.dropWhile p) := by
  intro x hx
  have hhead := List.head?_dropWhile_not p t
  rw [Option.mem_def.1 hx] at hhead
  simpa using hhead

theorem takeWhile_append_of_stops {p : Char → Bool} {a b : Text} (ha : ∀ x ∈ a, p x = true)
    (hb : Stops p b) : (a ++ b).takeWhile p = a := by
  rw [List.takeWhile_append_of_pos ha, takeWhile_of_stops hb, List.append_nil]

theorem dropWhile_append_of_stops {p : Char → Bool} {a b : Text} (ha : ∀ x ∈ a, p x = true)
    (hb : Stops p b) : (a ++ b).dropWhile p = b := by
  rw [List.dropWhile_append_of_pos ha, dropWhile_of_stops hb]

theorem takeWhile_before_stops {p : Char → Bool} {b : Text} (hb : Stops p b) (a : Text) :
    (a ++ b).takeWhile p = a.takeWhile p := by
  induction a with
  | nil => exact takeWhile_of_stops hb
  | cons x a ih => cases hx : p x <;> simp [hx, ih]

theorem dropWhile_before_stops {p : Char → Bool} {b : Text} (hb : Stops p b) (a : Text) :
    (a ++ b).dropWhile p = a.dropWhile p ++ b := by
  induction a with
  | nil => exact dropWhile_of_stops hb
  | cons x a ih => cases hx : p x <;> simp [hx, ih]

theorem exists_stop {p : Char → Bool} {a : Text} (h : ¬ ∀ x ∈ a, p x = true) :
    ∃ u x v, a = u ++ x :: v ∧ (∀ y ∈ u, p y = true) ∧ p x = false := by
  induction a with
  | nil => simp at h
  | cons x a ih =>
      cases hx : p x with
      | false => exact ⟨[], x, a, rfl, by simp, hx⟩
      | true =>
          obtain ⟨u, y, v, rfl, hu, hy⟩ := ih fun hall => h (by simpa [hx] using hall)
          exact ⟨x :: u, y, v, rfl, by simpa [hx] using hu, hy⟩

namespace Cursor

variable {p : Char → Bool} {a b : Text}

theorem skipWhile_append (behind : Text) (ha : ∀ x ∈ a, p x = true) (hb : Stops p b) :
    (⟨behind, a ++ b⟩ : Cursor).skipWhile p = ⟨a.reverse ++ behind, b⟩ := by
  rw [skipWhile, takeWhile_append_of_stops ha hb, dropWhile_append_of_stops ha hb]

theorem skipWhile_append_all (behind : Text) (ha : ∀ x ∈ a, p x = true) :
    (⟨behind, a ++ b⟩ : Cursor).skipWhile p =
      (⟨a.reverse ++ behind, b⟩ : Cursor).skipWhile p := by
  simp [skipWhile, List.takeWhile_append_of_pos ha, List.dropWhile_append_of_pos ha]

theorem ahead_skipWhile_ne_nil {c : Cursor} (h : ¬ ∀ x ∈ c.ahead, p x = true) :
    (c.skipWhile p).ahead ≠ [] := by
  obtain ⟨behind, ahead⟩ := c
  obtain ⟨u, x, v, rfl, hu, hx⟩ := exists_stop h
  rw [skipWhile_append behind hu (stops_cons hx)]
  exact List.cons_ne_nil x v

theorem skipWhile_of_stops {c : Cursor} (h : Stops p c.ahead) : c.skipWhile p = c := by
  rw [skipWhile, takeWhile_of_stops h, dropWhile_of_stops h]
  rfl

end Cursor

end ListingRules
