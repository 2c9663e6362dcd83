import Mathlib.Data.List.Forall2
import ListingRules.Text.Basic

namespace ListingRules

variable {α β ε : Type}

def gather (make : List β → α → Except ε β) (made : List β) : List α → Except ε (List β)
  | [] => .ok made
  | a :: rest => (make made a).bind fun b => gather make (made ++ [b]) rest

def FailsAt (fails : List α → α → ε → Prop) (items : List α) (i : Nat) (e : ε) : Prop :=
  ∃ a, items[i]? = some a ∧ fails (items.take i) a e

def FailsFirst (fails : List α → α → ε → Prop) (items : List α) (e : ε) : Prop :=
  ∃ i, FailsAt fails items i e ∧ ∀ j < i, ∀ f, ¬ FailsAt fails items j f

section Gather

variable {make : List β → α → Except ε β} {made more : List β} {items rest : List α} {e : ε}

theorem gather_cons_of_error {a : α} (h : make made a = .error e) :
    gather make made (a :: items) = .error e := by
  rw [gather, h]
  rfl

theorem gather_cons_of_ok {a : α} {b : β} (h : make made a = .ok b) :
    gather make made (a :: items) = gather make (made ++ [b]) items := by
  rw [gather, h]
  rfl

theorem gather_append (made : List β) (items rest : List α) :
    gather make made (items ++ rest) =
      (gather make made items).bind fun more => gather make more rest := by
  induction items generalizing made with
  | nil => rfl
  | cons a items ih =>
      cases hmake : make made a with
      | error e =>
          rw [List.cons_append, gather_cons_of_error hmake, gather_cons_of_error hmake]
          rfl
      | ok b => rw [List.cons_append, gather_cons_of_ok hmake, gather_cons_of_ok hmake, ih]

theorem gather_take (h : gather make made items = .ok more) (i : Nat) :
    ∃ first, gather make made (items.take i) = .ok first := by
  rw [← List.take_append_drop i items, gather_append] at h
  cases hi : gather make made (items.take i) with
  | error e =>
      rw [hi] at h
      cases h
  | ok first => exact ⟨first, rfl⟩

theorem gather_eq_error_iff :
    gather make made items = .error e ↔ ∃ i a more, items[i]? = some a ∧
      gather make made (items.take i) = .ok more ∧ make more a = .error e := by
  induction items generalizing made with
  | nil => simp [gather]
  | cons a items ih =>
      cases hmake : make made a with
      | error f =>
          rw [gather_cons_of_error hmake]
          constructor
          · intro h
            exact ⟨0, a, made, rfl, rfl, hmake.trans (congrArg _ (Except.error.inj h))⟩
          · rintro ⟨i, b, more, hb, hmore, hfails⟩
            cases i with
            | zero =>
                obtain rfl := Option.some.inj hb
                obtain rfl := Except.ok.inj hmore
                exact congrArg _ (Except.error.inj (hmake.symm.trans hfails))
            | succ i => simp [gather_cons_of_error hmake] at hmore
      | ok b =>
          rw [gather_cons_of_ok hmake, ih]
          have htake (i : Nat) : gather make made ((a :: items).take (i + 1)) =
              gather make (made ++ [b]) (items.take i) := gather_cons_of_ok hmake
          constructor
          · rintro ⟨i, c, more, hc, hmore, hfails⟩
            exact ⟨i + 1, c, more, hc, (htake i).trans hmore, hfails⟩
          · rintro ⟨i, c, more, hc, hmore, hfails⟩
            cases i with
            | zero =>
                obtain rfl := Option.some.inj hc
                obtain rfl := Except.ok.inj hmore
                simp [hmake] at hfails
            | succ i => exact ⟨i, c, more, hc, (htake i).symm.trans hmore, hfails⟩

theorem forall₂_gather {R : α → β → Prop}
    (h : gather make made items = .ok more)
    (hmake : ∀ before a b, make before a = .ok b → R a b) :
    ∃ new, more = made ++ new ∧ List.Forall₂ R items new := by
  induction items generalizing made with
  | nil =>
      obtain rfl := Except.ok.inj h
      exact ⟨[], by simp, .nil⟩
  | cons a items ih =>
      cases hb : make made a with
      | error e => simp [gather_cons_of_error hb] at h
      | ok b =>
          rw [gather_cons_of_ok hb] at h
          obtain ⟨new, rfl, hnew⟩ := ih h
          exact ⟨b :: new, by simp, .cons (hmake made a b hb) hnew⟩

theorem map_eq_of_forall₂ {γ : Type} {R : α → β → Prop} {f : β → γ} {g : α → γ}
    (hR : ∀ a b, R a b → f b = g a) (h : List.Forall₂ R items made) :
    made.map f = items.map g := by
  have hall : List.Forall₂ (· = ·) (items.map g) (made.map f) := by
    rw [List.forall₂_map_left_iff, List.forall₂_map_right_iff]
    exact h.imp fun a b hab => (hR a b hab).symm
  rw [List.forall₂_eq_eq_eq] at hall
  exact hall.symm

def Describes (fails : List α → α → ε → Prop) (make : List β → α → Except ε β) : Prop :=
  ∀ done made a e, gather make [] done = .ok made → (make made a = .error e ↔ fails done a e)

variable {fails : List α → α → ε → Prop}

theorem exists_gather_iff (hfails : Describes fails make) :
    (∃ more, gather make [] items = .ok more) ↔ ∀ i e, ¬ FailsAt fails items i e := by
  constructor
  · rintro ⟨more, h⟩ i e ⟨a, ha, hfail⟩
    obtain ⟨first, hfirst⟩ := gather_take h i
    have herror := gather_eq_error_iff.2 ⟨i, a, first, ha, hfirst, (hfails _ _ _ _ hfirst).2 hfail⟩
    simp [h] at herror
  · intro hnone
    cases h : gather make [] items with
    | ok more => exact ⟨more, rfl⟩
    | error e =>
        obtain ⟨i, a, first, ha, hfirst, hfail⟩ := gather_eq_error_iff.1 h
        exact absurd ⟨a, ha, (hfails _ _ _ _ hfirst).1 hfail⟩ (hnone i e)

theorem failsAt_take {i j : Nat} (hj : j < i) :
    FailsAt fails (items.take i) j e ↔ FailsAt fails items j e := by
  have hmin : min j i = j := Nat.min_eq_left (Nat.le_of_lt hj)
  simp only [FailsAt, List.getElem?_take_of_lt hj, List.take_take, hmin]

theorem lt_of_failsAt_take {i j : Nat} (h : FailsAt fails (items.take i) j e) : j < i := by
  obtain ⟨a, ha, -⟩ := h
  have hlt := (List.getElem?_eq_some_iff.1 ha).1
  rw [List.length_take] at hlt
  omega

theorem gather_error_iff_failsFirst (hfails : Describes fails make) :
    gather make [] items = .error e ↔ FailsFirst fails items e := by
  -- What comes before an item is made of all of it, or the item is never reached.
  have hclear (i : Nat) : (∃ more, gather make [] (items.take i) = .ok more) ↔
      ∀ j < i, ∀ f, ¬ FailsAt fails items j f := by
    rw [exists_gather_iff hfails]
    refine ⟨fun h j hj f hf => h j f ((failsAt_take hj).2 hf), fun h j f hf => ?_⟩
    have hj := lt_of_failsAt_take hf
    exact h j hj f ((failsAt_take hj).1 hf)
  rw [gather_eq_error_iff]
  constructor
  · rintro ⟨i, a, more, ha, hmore, hfail⟩
    exact ⟨i, ⟨a, ha, (hfails _ _ _ _ hmore).1 hfail⟩, (hclear i).1 ⟨more, hmore⟩⟩
  · rintro ⟨i, ⟨a, ha, hfail⟩, hbefore⟩
    obtain ⟨more, hmore⟩ := (hclear i).2 hbefore
    exact ⟨i, a, more, ha, hmore, (hfails _ _ _ _ hmore).2 hfail⟩

end Gather

theorem pairwise_iff_take {R : α → α → Prop} {items : List α} :
    items.Pairwise R ↔ ∀ i a, items[i]? = some a → ∀ b ∈ items.take i, R b a := by
  rw [List.pairwise_iff_getElem]
  constructor
  · intro h i a ha b hb
    obtain ⟨hi, rfl⟩ := List.getElem?_eq_some_iff.1 ha
    obtain ⟨j, hj, rfl⟩ := List.mem_take_iff_getElem.1 hb
    exact h j i (by omega) hi (by omega)
  · intro h j i hj hi hji
    exact h i _ (List.getElem?_eq_getElem hi) _ (List.mem_take_iff_getElem.2 ⟨j, by omega, rfl⟩)

theorem eq_of_pairwise {R : α → α → Prop} {items : List α} (h : items.Pairwise R) {i j : Nat}
    {a b : α} (ha : items[i]? = some a) (hb : items[j]? = some b) (hab : ¬ R a b)
    (hba : ¬ R b a) : i = j := by
  obtain ⟨hi, rfl⟩ := List.getElem?_eq_some_iff.1 ha
  obtain ⟨hj, rfl⟩ := List.getElem?_eq_some_iff.1 hb
  rcases Nat.lt_trichotomy i j with hlt | heq | hgt
  · exact absurd (List.pairwise_iff_getElem.1 h i j hi hj hlt) hab
  · exact heq
  · exact absurd (List.pairwise_iff_getElem.1 h j i hj hi hgt) hba

theorem findIdx?_sameAscii {name : α → Text} {items : List α}
    (h : items.Pairwise fun a b => Text.sameAscii (name a) (name b) = false) {i : Nat} {a : α}
    (ha : items[i]? = some a) {wanted : Text} (hwanted : Text.sameAscii (name a) wanted = true) :
    items.findIdx? (fun b => Text.sameAscii (name b) wanted) = some i := by
  obtain ⟨hi, rfl⟩ := List.getElem?_eq_some_iff.1 ha
  refine List.findIdx?_eq_some_iff_getElem.2 ⟨hi, hwanted, fun j hj => ?_⟩
  have hdiffer := List.pairwise_iff_getElem.1 h j i (by omega) hi hj
  simp only [Text.sameAscii, beq_iff_eq, beq_eq_false_iff_ne] at hwanted hdiffer
  simpa [Text.sameAscii, ← hwanted] using hdiffer

end ListingRules
