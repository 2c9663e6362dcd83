import Mathlib.Data.Option.Basic
import Mathlib.Logic.Relation
import ListingRules.Listing.Lines
import ListingRules.Listing.Reader

namespace ListingRules.Cursor

open Text (isLineEnd)

inductive Step : Cursor → Cursor → Prop
  | on (b : Text) (x : Char) (t : Text) : Step ⟨b, x :: t⟩ ⟨x :: b, t⟩
  | back (b : Text) (x : Char) (t : Text) : isLineEnd x = false → Step ⟨x :: b, t⟩ ⟨b, x :: t⟩

abbrev Walk : Cursor → Cursor → Prop :=
  Relation.ReflTransGen Step

def StartsLine (c : Cursor) : Prop :=
  ∀ x ∈ c.behind.head?, isLineEnd x = true

def PastLineEnd (c : Cursor) : Prop :=
  ∃ x b, c.behind = x :: b ∧ isLineEnd x = true ∧ ¬(x = '\r' ∧ c.ahead.head? = some '\n')

theorem PastLineEnd.startsLine {c : Cursor} (h : c.PastLineEnd) : c.StartsLine := by
  obtain ⟨x, b, hb, hx, -⟩ := h
  intro y hy
  obtain rfl : x = y := by simpa [hb] using hy
  exact hx

theorem text_step {c d : Cursor} (h : Step c d) : d.text = c.text := by
  cases h <;> simp [text]

theorem text_walk {c d : Cursor} (h : Walk c d) : d.text = c.text := by
  induction h with
  | refl => rfl
  | tail _ hs ih => rw [text_step hs, ih]

theorem behind_walk {c d : Cursor} (hc : c.StartsLine) (h : Walk c d) :
    c.behind <:+ d.behind := by
  induction h with
  | refl => exact List.suffix_rfl
  | tail _ hs ih =>
      cases hs with
      | on b x t => exact ih.trans (List.suffix_cons x b)
      | back b x t hx =>
          rcases List.suffix_cons_iff.1 ih with hcb | hcb
          · have hend : isLineEnd x = true := hc x (by simp [hcb])
            simp [hx] at hend
          · exact hcb

def Spans (c d : Cursor) (t : Text) : Prop :=
  c.ahead = t ++ d.ahead ∧ d.behind = t.reverse ++ c.behind

theorem spans_walk {c d : Cursor} (hc : c.StartsLine) (h : Walk c d) : ∃ t, Spans c d t := by
  obtain ⟨u, hu⟩ := behind_walk hc h
  refine ⟨u.reverse, ?_, by simp [hu]⟩
  have ht : c.behind.reverse ++ (u.reverse ++ d.ahead) = c.behind.reverse ++ c.ahead := by
    rw [← List.append_assoc, ← List.reverse_append, hu]
    exact text_walk h
  exact (List.append_cancel_left ht).symm

theorem Spans.text_eq {c d : Cursor} {t : Text} (h : Spans c d t) : d.text = c.text := by
  simp [text, h.1, h.2]

theorem Spans.offset_eq {c d : Cursor} {t : Text} (h : Spans c d t) :
    d.offset = c.offset + Text.byteCount t := by
  simp [offset, h.2, Nat.add_comm]

theorem Spans.offset_lt {c d : Cursor} {t : Text} (h : Spans c d t) (ht : t ≠ []) :
    c.offset < d.offset := by
  have hpos : 0 < Text.byteCount t :=
    Nat.lt_of_lt_of_le (List.length_pos_iff.2 ht) (Text.length_le_byteCount t)
  rw [h.offset_eq]
  omega

theorem Spans.trans {c d e : Cursor} {t u : Text} (h : Spans c d t) (h' : Spans d e u) :
    Spans c e (t ++ u) :=
  ⟨by rw [h.1, h'.1, List.append_assoc], by rw [h'.2, h.2, List.reverse_append, List.append_assoc]⟩

theorem Spans.unique {c d : Cursor} {t u : Text} (h : Spans c d t) (h' : Spans c d u) : t = u :=
  List.append_cancel_right (h.1.symm.trans h'.1)

theorem spans_next {c : Cursor} {x : Char} {t : Text} (h : c.ahead = x :: t) :
    Spans c c.next [x] := by
  obtain ⟨b, a⟩ := c
  obtain rfl : a = x :: t := h
  exact ⟨rfl, rfl⟩

theorem spans_expect? {x : Char} {c d : Cursor} (h : c.expect? x = some d) : Spans c d [x] := by
  simp only [expect?] at h
  split at h
  · rename_i hhead
    obtain rfl := Option.some.inj h
    obtain ⟨t, ht⟩ := List.head?_eq_some_iff.1 hhead
    exact spans_next ht
  · cases h

theorem spans_skipWhile (p : Char → Bool) (c : Cursor) :
    Spans c (c.skipWhile p) (c.ahead.takeWhile p) :=
  ⟨List.takeWhile_append_dropWhile.symm, rfl⟩

theorem spans_advance (n : Nat) (c : Cursor) : Spans c (advance n c) (c.ahead.take n) := by
  induction n generalizing c with
  | zero => exact ⟨rfl, rfl⟩
  | succ n ih =>
      obtain ⟨b, a⟩ := c
      cases a with
      | nil => simpa [advance, next] using ih ⟨b, []⟩
      | cons x t => exact (spans_next (c := ⟨b, x :: t⟩) rfl).trans (ih ⟨x :: b, t⟩)

theorem spans_append {c : Cursor} {t u : Text} (h : c.ahead = t ++ u) :
    Spans c (advance t.length c) t := by
  have hs := spans_advance t.length c
  rwa [h, List.take_left] at hs

theorem walk_next (c : Cursor) : Walk c c.next := by
  obtain ⟨b, t⟩ := c
  cases t with
  | nil => exact .refl
  | cons x t => exact .single (.on b x t)

theorem walk_advance (n : Nat) (c : Cursor) : Walk c (advance n c) := by
  induction n generalizing c with
  | zero => exact .refl
  | succ n ih => exact (walk_next c).trans (ih c.next)

theorem walk_skipWhile (p : Char → Bool) (c : Cursor) : Walk c (c.skipWhile p) := by
  obtain ⟨b, t⟩ := c
  induction t generalizing b with
  | nil => exact .refl
  | cons x t ih =>
      cases hx : p x with
      | false => simpa [skipWhile, hx] using Relation.ReflTransGen.refl
      | true =>
          have hs := ih (x :: b)
          simp only [skipWhile] at hs
          simpa [skipWhile, hx] using hs.head (.on b x t)

theorem walk_back? {c d : Cursor} (h : c.back? = some d) : Walk c d := by
  obtain ⟨b, t⟩ := c
  cases b with
  | nil => simp [back?] at h
  | cons x b =>
      simp only [back?] at h
      split at h
      · simp at h
      · rename_i hx
        obtain rfl := Option.some.inj h
        exact .single (.back b x t (by simpa using hx))

theorem walk_expect? {x : Char} {c d : Cursor} (h : c.expect? x = some d) : Walk c d := by
  simp only [expect?] at h
  split at h
  · obtain rfl := Option.some.inj h
    exact walk_next c
  · simp at h

theorem walk_forward? {p : Char → Bool} {n : Nat} {c d : Cursor} (h : forward? p n c = some d) :
    Walk c d := by
  induction n generalizing c with
  | zero => obtain rfl := Option.some.inj h; exact .refl
  | succ n ih =>
      simp only [forward?] at h
      split at h
      · exact (walk_next c).trans (ih h)
      · simp at h

theorem spans_forward? {p : Char → Bool} {n : Nat} {c d : Cursor} (h : forward? p n c = some d) :
    Spans c d (c.ahead.take n) := by
  induction n generalizing c with
  | zero => obtain rfl := Option.some.inj h; exact ⟨rfl, rfl⟩
  | succ n ih =>
      obtain ⟨b, a⟩ := c
      cases a with
      | nil => simp [forward?] at h
      | cons x t =>
          simp only [forward?] at h
          split at h
          · exact (spans_next (c := ⟨b, x :: t⟩) rfl).trans (ih h)
          · simp at h

theorem walk_backward? {n : Nat} {c d : Cursor} (h : backward? n c = some d) : Walk c d := by
  induction n generalizing c with
  | zero => obtain rfl := Option.some.inj h; exact .refl
  | succ n ih =>
      simp only [backward?, Option.bind_eq_some_iff] at h
      obtain ⟨b, hb, h⟩ := h
      exact (walk_back? hb).trans (ih h)

theorem walk_sign (c : Cursor) : Walk c c.sign.2 := by
  simp only [sign]
  split
  · exact walk_next c
  · exact walk_next c
  · exact .refl

theorem walk_digits? {c d : Cursor} {n : Nat} (h : c.digits? = some (n, d)) : Walk c d := by
  simp only [digits?, Option.map_eq_some_iff, Prod.mk.injEq] at h
  obtain ⟨_, -, -, rfl⟩ := h
  exact walk_skipWhile _ c

theorem walk_signedDigits? {c d : Cursor} {n : Int} (h : c.signedDigits? = some (n, d)) :
    Walk c d := by
  simp only [signedDigits?, Option.map_eq_some_iff, Prod.exists, Prod.mk.injEq] at h
  obtain ⟨_, _, hd, -, rfl⟩ := h
  exact (walk_sign c).trans (walk_digits? hd)

theorem walk_separatedDigits? {separators : Text} {c d : Cursor} {n : Int}
    (h : c.separatedDigits? separators = some (n, d)) : Walk c d := by
  simp only [separatedDigits?, Option.bind_eq_bind, Option.bind_eq_some_iff, Option.pure_def,
    Option.some.injEq, Prod.mk.injEq] at h
  obtain ⟨_, -, _, -, -, rfl⟩ := h
  exact ((walk_skipWhile _ c).trans (walk_sign _)).trans (walk_skipWhile _ _)

theorem walk_seconds? {c d : Cursor} {second milli : Nat}
    (h : c.seconds? = some (second, milli, d)) : Walk c d := by
  simp only [seconds?] at h
  split at h
  · simp only [Option.some.injEq, Prod.mk.injEq] at h
    obtain ⟨-, -, rfl⟩ := h
    exact .refl
  · rename_i c₁ h₁
    simp only [Option.bind_eq_bind, Option.bind_eq_some_iff, Prod.exists] at h
    obtain ⟨_, c₂, h₂, h⟩ := h
    have hw : Walk c c₂ := (walk_expect? h₁).trans (walk_digits? h₂)
    split at h
    · simp only [Option.pure_def, Option.some.injEq, Prod.mk.injEq] at h
      obtain ⟨-, -, rfl⟩ := h
      exact hw
    · rename_i c₃ h₃
      simp only [Option.pure_def, Option.bind_eq_some_iff, Prod.exists, Option.some.injEq,
        Prod.mk.injEq] at h
      obtain ⟨_, c₄, h₄, -, -, rfl⟩ := h
      exact (hw.trans (walk_expect? h₃)).trans (walk_digits? h₄)

theorem walk_halfOfDay (hour : Nat) (c : Cursor) : Walk c (c.halfOfDay hour).2 := by
  have hm (d : Cursor) :
      Walk d (if (d.ahead.head?.map Char.toLower) = some 'm' then d.next else d) := by
    split
    · exact walk_next d
    · exact .refl
  simp only [halfOfDay]
  split
  · exact (walk_next c).trans (hm c.next)
  · exact (walk_next c).trans (hm c.next)
  · exact .refl

theorem walk_time? {c d : Cursor} {t : Time} (h : c.time? = some (t, d)) : Walk c d := by
  simp only [time?, Option.bind_eq_bind, Option.bind_eq_some_iff, Prod.exists, Option.pure_def,
    Option.some.injEq, Prod.mk.injEq] at h
  obtain ⟨hour, c₁, h₁, _, -, c₂, h₂, _, c₃, h₃, _, _, c₄, h₄, _, -, _, -, -, rfl⟩ := h
  have hw : Walk c c₃ := ((walk_digits? h₁).trans (walk_expect? h₂)).trans (walk_digits? h₃)
  exact (hw.trans (walk_seconds? h₄)).trans (walk_halfOfDay hour c₄)

theorem walk_yearOrTime? {c d : Cursor} {y : YearOrTime} (h : c.yearOrTime? = some (y, d)) :
    Walk c d := by
  simp only [yearOrTime?, Option.bind_eq_bind, Option.bind_eq_some_iff, Prod.exists] at h
  obtain ⟨first, c₁, h₁, h⟩ := h
  split at h
  · simp only [Option.bind_eq_some_iff, Prod.exists, Option.pure_def, Option.some.injEq,
      Prod.mk.injEq] at h
    obtain ⟨_, c₂, h₂, _, -, _, -, -, rfl⟩ := h
    exact ((walk_digits? h₁).trans (walk_next c₁)).trans (walk_digits? h₂)
  · simp only [Option.bind_eq_some_iff, Option.pure_def, Option.some.injEq, Prod.mk.injEq] at h
    obtain ⟨_, -, -, rfl⟩ := h
    exact walk_digits? h₁

theorem walk_device? {c d : Cursor} (h : c.device? = some d) : Walk c d := by
  simp only [device?, Option.bind_eq_bind, Option.bind_eq_some_iff, Option.pure_def,
    Option.some.injEq] at h
  obtain ⟨_, -, c₁, h₁, _, -, _, -, rfl⟩ := h
  have hw : Walk c c₁ :=
    ((walk_skipWhile _ c).trans (walk_skipWhile _ _)).trans (walk_expect? h₁)
  exact (hw.trans (walk_skipWhile _ c₁)).trans (walk_skipWhile _ _)

theorem walk_skipLineEnd (c : Cursor) : Walk c c.skipLineEnd := by
  simp only [skipLineEnd]
  split <;> split
  · exact (walk_next c).trans (walk_next _)
  · exact walk_next c
  · exact walk_next c
  · exact .refl

theorem pastLineEnd_skipLineEnd {c : Cursor} (h : c.atLineEnd = true) (hc : c.ahead ≠ []) :
    c.skipLineEnd.PastLineEnd := by
  obtain ⟨b, t⟩ := c
  cases t with
  | nil => exact absurd rfl hc
  | cons x t =>
      have hx : x = '\r' ∨ x = '\n' := by simpa [atLineEnd, isLineEnd] using h
      rcases hx with rfl | rfl
      · cases t with
        | nil => exact ⟨'\r', b, rfl, rfl, by simp [skipLineEnd]⟩
        | cons y t =>
            by_cases hy : y = '\n'
            · subst hy
              exact ⟨'\n', '\r' :: b, rfl, rfl, by simp⟩
            · exact ⟨'\r', b, by simp [skipLineEnd, hy], rfl, by simp [skipLineEnd, hy]⟩
      · exact ⟨'\n', b, rfl, rfl, by simp⟩

theorem length_behind_skipLineEnd {c : Cursor} (h : c.atLineEnd = true) (hc : c.ahead ≠ []) :
    c.behind.length < c.skipLineEnd.behind.length := by
  obtain ⟨b, t⟩ := c
  cases t with
  | nil => exact absurd rfl hc
  | cons x t =>
      have hx : x = '\r' ∨ x = '\n' := by simpa [atLineEnd, isLineEnd] using h
      rcases hx with rfl | rfl
      · cases t with
        | nil => simp [skipLineEnd]
        | cons y t =>
            by_cases hy : y = '\n'
            · simp only [skipLineEnd, hy, List.head?_cons, ↓reduceIte, next_cons, List.length_cons]
              omega
            · simp [skipLineEnd, hy]
      · simp [skipLineEnd]

theorem skipLineEnd_of_ahead_nil {c : Cursor} (h : c.ahead = []) : c.skipLineEnd = c := by
  simp [skipLineEnd, h]

end ListingRules.Cursor
